import Kergit.SeatOwnership
import Kergit.Lib.GroupKeys

/-!
The voice service as a group-key ledger, one per channel.

`ledger` reads a channel's ledger off a state: the key manager's current key, the
tracked participants, and from the journal what each user was handed.  The
theorems here say which turn of the ledger each move of the service is, as long
as the channel lookup answers, keys can be drawn, and the owners of the seats are
connected: a key update to a session without connections is not sent at all.

- `joined_refines`: an admitted join is a landing in its channel, and the user
  slips out of any other.
- `left_refines`, `forced_refines`, `finished_refines`: a departure closes the
  channel or rekeys it.
- `acquireForJoin_refines`: acquiring a key rekeys, or uses the current key, or
  adopts a stored one.
-/

namespace Kergit

open Lib

open VoiceSessionManager (userChannel_eq_some mem_participantsInChannel)

/-- Key generation works: keys come out, are not empty and never repeat. -/
structure Config.DrawsKeys (cfg : Config) : Prop where
  succeeds : ∀ n, ∃ key, cfg.generateKey n = some key ∧ key ≠ ""
  distinct : ∀ n m, cfg.generateKey n = cfg.generateKey m → n = m

/-- The hub service knows every channel it is asked about. -/
def Env.FindsChannels (env : Env) : Prop := ∀ channel, ∃ info, env.getChannel channel = some info

/-- Redis takes every command, and the hub service knows every channel. -/
structure Env.Answers (env : Env) : Prop where
  lookup : env.FindsChannels
  redis : env.redis.Up

/-- Every seat's owner session has a connection. -/
def Roster.OwnersConnected (r : Roster) : Prop :=
  ∀ user seat, r.sessions.voiceState user = some seat →
    r.sessionManager.sessionIdHasConnections seat.ownerSession = true

namespace VoiceState

/-- The channel's ledger. -/
def ledger (cfg : Config) (s : VoiceState) (channel : ChannelId) : Ledger UserId ChannelKey where
  current := s.keys.getKey channel
  members := {user | s.sessions.userChannel user = some channel}
  last := fun user => s.lastKey user channel
  handed := fun user =>
    {key | ∃ given ∈ s.deliveries, given.user = user ∧ given.channel = channel ∧ given.key = key}
  used := {key | ∃ n < s.keyDraws, cfg.generateKey n = some key.key}

/-- From `s` to `s'`, exactly `users` were handed `key`, and for this channel. -/
def Told (s s' : VoiceState) (channel : ChannelId) (users : Set UserId) (key : Option ChannelKey) :
    Prop :=
  ∃ new, s'.deliveries = new ++ s.deliveries ∧
    (∀ given ∈ new, given.channel = channel ∧ given.user ∈ users ∧ key = some given.key) ∧
    ∀ user ∈ users, key ≠ none → ∃ given ∈ new, given.user = user

variable {cfg : Config} {env : Env} {s s' t : VoiceState} {event : LiveKitEvent}
  {channel c : ChannelId} {user u : UserId} {users : Set UserId} {key : Option ChannelKey}
  {lands : Ledger UserId ChannelKey → UserId → Prop} {loose : Prop}

variable (rng : cfg.DrawsKeys) (lookup : env.FindsChannels) (connected : s.roster.OwnersConnected)

theorem lastKey_append (added : s'.deliveries = new ++ s.deliveries) : s'.lastKey user channel =
      ((new.find? fun given => given.user = user ∧ given.channel = channel).map (·.key)).or
        (s.lastKey user channel) := by
  rw [lastKey, added, lastKey]
  grind

theorem lastKey_of_none (added : s'.deliveries = new ++ s.deliveries)
    (none : ∀ given ∈ new, ¬ (given.user = user ∧ given.channel = channel)) :
    s'.lastKey user channel = s.lastKey user channel := by
  rw [lastKey_append added, List.find?_eq_none.mpr (by simpa using none)]
  rfl

theorem used_mono (draws : s.keyDraws ≤ s'.keyDraws) :
    (s.ledger cfg channel).used ⊆ (s'.ledger cfg channel).used := by
  rintro key ⟨n, earlier, drawn⟩
  exact ⟨n, Nat.lt_of_lt_of_le earlier draws, drawn⟩

theorem Told.given (told : Told s s' channel users key) (draws : s.keyDraws ≤ s'.keyDraws) :
    Ledger.Given (s.ledger cfg channel) (s'.ledger cfg channel) users key := by
  obtain ⟨new, added, only, all⟩ := told
  refine ⟨?_, ?_, ?_, used_mono draws⟩
  · intro user member
    change s'.lastKey user channel = key.or (s.lastKey user channel)
    cases key with
    | none =>
      refine lastKey_of_none added fun given listed _ => ?_
      nomatch (only given listed).2.2
    | some key =>
      obtain ⟨given, listed, mine⟩ := all user member (by simp)
      rw [lastKey_append added]
      obtain ⟨first, found⟩ : ∃ first,
          new.find? (fun given => given.user = user ∧ given.channel = channel) = some first := by
        rw [← Option.isSome_iff_exists, List.find?_isSome]
        exact ⟨given, listed, by simp [mine, (only given listed).1]⟩
      have same := (only first (List.mem_of_find?_eq_some found)).2.2
      rw [found, Option.some.inj same]
      rfl
  · intro user outsider
    refine lastKey_of_none added fun given listed both => ?_
    exact outsider (both.1 ▸ (only given listed).2.1)
  · rintro user k ⟨given, listed, mine, here, rfl⟩
    rw [added] at listed
    rcases List.mem_append.mp listed with fresh | old
    · exact .inr ⟨mine ▸ (only given fresh).2.1, (only given fresh).2.2⟩
    · exact .inl ⟨given, old, mine, here, rfl⟩

/-- Nothing happened in the ledgers of the other channels. -/
theorem Told.elsewhere (told : Told s s' channel users key) (draws : s.keyDraws ≤ s'.keyDraws)
    (other : c ≠ channel) : Ledger.Given (s.ledger cfg c) (s'.ledger cfg c) ∅ none := by
  obtain ⟨new, added, only, -⟩ := told
  refine ⟨fun _ member => absurd member (Set.notMem_empty _), ?_, ?_, used_mono draws⟩
  · intro user _
    refine lastKey_of_none added fun given listed both => ?_
    exact other (both.2.symm.trans (only given listed).1)
  · rintro user k ⟨given, listed, mine, here, rfl⟩
    rw [added] at listed
    rcases List.mem_append.mp listed with fresh | old
    · exact absurd (here.symm.trans (only given fresh).1) other
    · exact .inl ⟨given, old, mine, here, rfl⟩

theorem told_nothing (same : s'.deliveries = s.deliveries) (channel : ChannelId)
    (users : Set UserId) : Told s s' channel users none :=
  ⟨[], same, by simp, by simp⟩

theorem Told.from (told : Told t s' channel users key) (same : t.deliveries = s.deliveries) :
    Told s s' channel users key := by
  rw [Told, same] at told
  exact told

theorem current_of_keys (same : s'.keys = s.keys) :
    (s'.ledger cfg c).current = (s.ledger cfg c).current := by
  change s'.keys.getKey c = s.keys.getKey c
  rw [same]

theorem members_of_sessions (same : s'.sessions = s.sessions) :
    (s'.ledger cfg c).members = (s.ledger cfg c).members := by
  change {user | s'.sessions.userChannel user = some c} = _
  rw [same]
  rfl

theorem Quiet.refines (quiet : Quiet s s') (c : ChannelId) :
    Ledger.Turn lands loose (s.ledger cfg c) (s'.ledger cfg c) :=
  .idle (current_of_keys quiet.keys) (members_of_sessions quiet.sessions)
    ((told_nothing quiet.deliveries c ∅).given (Nat.le_of_eq quiet.keyDraws.symm))

/-! ## Handing out keys -/

/-- A connected user gets the update. -/
theorem voiceKeyUpdateToUser_connected {seat : UserVoiceState} {key : ChannelKey}
    (seated : s.sessions.voiceState user = some seat)
    (connected : s.sessionManager.sessionIdHasConnections seat.ownerSession = true) :
    s.voiceKeyUpdateToUser hub channel user key =
      [.keyUpdate (s.sessionManager.getSessionIdConnections seat.ownerSession) hub channel user
        key] := by
  have session : s.sessions.userSession user = some seat.ownerSession := by
    rw [VoiceSessionManager.userSession, seated]
    rfl
  rw [SessionManager.sessionIdHasConnections, Bool.not_eq_true'] at connected
  simp [voiceKeyUpdateToUser, session, connected]

include lookup connected in
theorem resyncToUser_told (tracked : s.sessions.userChannel user = some channel) :
    Told s (s.resyncToUser env user) channel {user} (s.keys.getKey channel) := by
  obtain ⟨owner, seated⟩ := userChannel_eq_some.mp tracked
  obtain ⟨info, found⟩ := lookup channel
  cases now : s.keys.getKey channel with
  | none =>
    refine told_nothing ?_ channel _
    simp only [resyncToUser, tracked, now]
    rfl
  | some key =>
    refine ⟨[⟨user, channel, key, s.sessionManager.getSessionIdConnections owner, false⟩],
      ?_, ?_, ?_⟩
    · simp only [resyncToUser, tracked, now, found]
      rw [voiceKeyUpdateToUser_connected seated (connected user _ seated)]
      rfl
    · simp
    · simp

include lookup connected in
theorem broadcastKey_told (channel : ChannelId) (key : ChannelKey) :
    Told s (s.broadcastKey env channel key) channel
      {user | s.sessions.userChannel user = some channel} (some key) := by
  obtain ⟨info, found⟩ := lookup channel
  have sent : (s.broadcastKey env channel key).deliveries =
      ((s.voiceKeyUpdate info.hubId channel key).filterMap Effect.delivery?).reverse ++
        s.deliveries := by
    simp only [broadcastKey, found]
    exact deliveries_emitAll
  have message : ∀ user seat, s.sessions.voiceState user = some seat →
      s.voiceKeyUpdateToUser info.hubId channel user key =
        [.keyUpdate (s.sessionManager.getSessionIdConnections seat.ownerSession) info.hubId channel
          user key] :=
    fun user seat seated => voiceKeyUpdateToUser_connected seated (connected user seat seated)
  refine ⟨_, sent, ?_, ?_⟩
  · intro given listed
    obtain ⟨effect, pushed, gives⟩ := List.mem_filterMap.mp (List.mem_reverse.mp listed)
    obtain ⟨participant, present, mine⟩ := List.mem_flatMap.mp pushed
    have tracked : s.sessions.userChannel participant.userId = some channel :=
      mem_participantsInChannel.mp ⟨participant, present, rfl⟩
    obtain ⟨owner, seated⟩ := userChannel_eq_some.mp tracked
    rw [message _ _ seated, List.mem_singleton] at mine
    subst mine
    obtain rfl := Option.some.inj gives
    exact ⟨rfl, tracked, rfl⟩
  · intro user tracked _
    obtain ⟨participant, present, rfl⟩ := mem_participantsInChannel.mpr tracked
    obtain ⟨owner, seated⟩ := userChannel_eq_some.mp tracked
    have pushed : Effect.keyUpdate (s.sessionManager.getSessionIdConnections owner) info.hubId channel
        participant.userId key ∈ s.voiceKeyUpdate info.hubId channel key := by
      refine List.mem_flatMap.mpr ⟨participant, present, ?_⟩
      rw [message _ _ seated]
      exact List.mem_singleton.mpr rfl
    exact ⟨_, List.mem_reverse.mpr (List.mem_filterMap.mpr ⟨_, pushed, rfl⟩), rfl⟩

theorem getKey_persistToStorage {k : KeyTables} {key : ChannelKey} :
    (k.persistToStorage cfg env channel key).getKey c = k.getKey c := by
  unfold KeyTables.persistToStorage KeyTables.writeStorage
  split
  · rfl
  · split <;> rfl

theorem getKey_install {k : KeyTables} {key : ChannelKey} (nonempty : key.key ≠ "") :
    (k.install channel (some key)).getKey c = if c = channel then some key else k.getKey c := by
  simp only [KeyTables.install, KeyTables.getKey, Map.lookup_insert_if]
  split
  · simp [nonempty]
  · rfl

/-- A key is drawn: it is installed, counted and new. -/
structure Drew (cfg : Config) (s s' : VoiceState) (channel : ChannelId) (key : ChannelKey) :
    Prop where
  drawn : cfg.generateKey s.keyDraws = some key.key
  nonempty : key.key ≠ ""
  keyDraws : s'.keyDraws = s.keyDraws + 1
  keys : ∀ c, s'.keys.getKey c = if c = channel then some key else s.keys.getKey c

theorem Drew.here (drew : Drew cfg s s' channel k) : s'.keys.getKey channel = some k :=
  (drew.keys channel).trans (if_pos rfl)

/-- The answer is a key just drawn, which nobody has been told. -/
def Draws (cfg : Config) (s : VoiceState) (channel : ChannelId)
    (answer : Option ChannelKey × VoiceState) : Prop :=
  ∃ key t, answer = (some key, t) ∧ Drew cfg s t channel key ∧ t.roster = s.roster ∧
    t.deliveries = s.deliveries

theorem drawKey_draws (rng : cfg.DrawsKeys) (keyIndex : Nat) :
    Draws cfg s channel (s.drawKey cfg channel keyIndex) := by
  obtain ⟨text, drawn, nonempty⟩ := rng.succeeds s.keyDraws
  simp only [drawKey, drawn]
  exact ⟨_, _, rfl, ⟨drawn, nonempty, rfl, fun c => getKey_install nonempty⟩, rfl, rfl⟩

theorem rotateKey_draws (rng : cfg.DrawsKeys) : Draws cfg s channel (s.rotateKey cfg channel) :=
  drawKey_draws rng _

theorem Drew.fresh (drew : Drew cfg s s' channel k) (rng : cfg.DrawsKeys) :
    k ∉ (s.ledger cfg channel).used := by
  rintro ⟨n, earlier, same⟩
  have := rng.distinct n s.keyDraws (same.trans drew.drawn.symm)
  omega

theorem Drew.used (drew : Drew cfg s s' channel k) : k ∈ (s'.ledger cfg channel).used := by
  refine ⟨s.keyDraws, ?_, drew.drawn⟩
  rw [drew.keyDraws]
  exact Nat.lt_succ_self _

/-- Storing a key does not change which keys were drawn. -/
theorem Drew.persisted (drew : Drew cfg s t channel k) :
    Drew cfg s (t.onKeys (·.persistToStorage cfg env channel k)) channel k :=
  ⟨drew.drawn, drew.nonempty, drew.keyDraws, fun c => getKey_persistToStorage.trans (drew.keys c)⟩

theorem Drew.published (drew : Drew cfg s t channel k) :
    Drew cfg s ((t.onKeys (·.persistToStorage cfg env channel k)).broadcastKey env channel k)
      channel k :=
  ⟨drew.drawn, drew.nonempty, drew.keyDraws, drew.persisted.keys⟩

theorem published_told {key : ChannelKey} (roster : t.roster = s.roster)
    (deliveries : t.deliveries = s.deliveries) (lookup : env.FindsChannels)
    (connected : s.roster.OwnersConnected) :
    Told s ((t.onKeys (·.persistToStorage cfg env channel key)).broadcastKey env channel key) channel
      {user | s.sessions.userChannel user = some channel} (some key) := by
  set stored := t.onKeys (·.persistToStorage cfg env channel key)
  have stays : stored.roster = s.roster := roster
  have told := broadcastKey_told (s := stored) lookup (stays ▸ connected) channel key
  rw [show stored.sessions = s.sessions from congrArg Roster.sessions stays] at told
  exact told.from deliveries

theorem rotateAndBroadcast_drew (rng : cfg.DrawsKeys) (channel : ChannelId) :
    Drew cfg s (s.rotateAndBroadcast cfg env channel).2 channel
      (s.rotateAndBroadcast cfg env channel).1 := by
  obtain ⟨key, t, drawn, drew, -⟩ : Draws cfg s channel _ := rotateKey_draws rng
  simp only [rotateAndBroadcast, drawn]
  exact drew.published

include rng lookup connected in
/-- **A rotation.**  A new key is drawn for the channel and everybody tracked in it
is told. -/
theorem rotateAndBroadcast_spec (channel : ChannelId) :
    Drew cfg s (s.rotateAndBroadcast cfg env channel).2 channel
        (s.rotateAndBroadcast cfg env channel).1 ∧
      Told s (s.rotateAndBroadcast cfg env channel).2 channel
        {user | s.sessions.userChannel user = some channel}
        (some (s.rotateAndBroadcast cfg env channel).1) := by
  obtain ⟨key, t, drawn, drew, roster, deliveries⟩ : Draws cfg s channel _ := rotateKey_draws rng
  simp only [rotateAndBroadcast, drawn]
  exact ⟨drew.published, published_told roster deliveries lookup connected⟩

/-! ## Departures -/

theorem getKey_clearChannel {k : KeyTables} :
    (k.clearChannel env channel).getKey c = if c = channel then none else k.getKey c := by
  simp only [KeyTables.clearChannel, KeyTables.getKey, Map.lookup_erase_if]
  split <;> rfl

/-- `t` is `s` with some members of the channel gone and nothing said yet. -/
structure Vacated (s t : VoiceState) (channel : ChannelId) : Prop where
  keys : t.keys = s.keys
  keyDraws : t.keyDraws = s.keyDraws
  deliveries : t.deliveries = s.deliveries
  fewer : ∀ v, t.sessions.userChannel v = some channel → s.sessions.userChannel v = some channel
  others : ∀ c ≠ channel, ∀ v,
    t.sessions.userChannel v = some c ↔ s.sessions.userChannel v = some c

section

variable (vacated : Vacated s t channel)

include vacated

theorem Vacated.elsewhere (told : Told t s' channel users key) (sessions : s'.sessions = t.sessions)
    (draws : t.keyDraws ≤ s'.keyDraws) (keys : s'.keys.getKey c = t.keys.getKey c)
    (other : c ≠ channel) : Ledger.Turn lands loose (s.ledger cfg c) (s'.ledger cfg c) := by
  refine .idle ?_ ?_ ((told.from vacated.deliveries).elsewhere (vacated.keyDraws ▸ draws) other)
  · change s'.keys.getKey c = s.keys.getKey c
    rw [keys, vacated.keys]
  · ext v
    change s'.sessions.userChannel v = some c ↔ s.sessions.userChannel v = some c
    rw [sessions, vacated.others c other v]

/-- A key drawn once members are gone, and told to all who are left. -/
theorem Vacated.rekeyed {key : ChannelKey} (rng : cfg.DrawsKeys) (drew : Drew cfg t s' channel key)
    (sessions : s'.sessions = t.sessions)
    (told : Told t s' channel {v | t.sessions.userChannel v = some channel} (some key))
    (c : ChannelId) : Ledger.Turn lands loose (s.ledger cfg c) (s'.ledger cfg c) := by
  have draws : t.keyDraws ≤ s'.keyDraws := Nat.le_of_lt (drew.keyDraws ▸ Nat.lt_succ_self _)
  by_cases here : c = channel
  · subst here
    have fresh : key ∉ (s.ledger cfg c).used := by
      have := drew.fresh rng
      simp only [ledger, vacated.keyDraws] at this
      exact this
    have members : (s'.ledger cfg c).members = (t.ledger cfg c).members :=
      members_of_sessions sessions
    refine .rekey key (members ▸ vacated.fewer) fresh drew.used drew.here ?_
    rw [members]
    exact (told.from vacated.deliveries).given (vacated.keyDraws ▸ draws)
  · exact vacated.elsewhere told sessions draws ((drew.keys c).trans (if_neg here)) here

include rng lookup in
/-- **A departure closes or rekeys.**  Once members are gone, the channel is closed
if that emptied it, and gets a new key, known to all who are left, if not. -/
theorem Vacated.refines {emptied : Bool} (connected : t.roster.OwnersConnected)
    (empty : emptied = true → ∀ v, t.sessions.userChannel v ≠ some channel) (c : ChannelId) :
    Ledger.Turn lands loose (s.ledger cfg c)
      ((t.closeOrRotate cfg env channel emptied).ledger cfg c) := by
  cases emptied with
  | true =>
    have told : Told t (t.closeOrRotate cfg env channel true) channel ∅ none :=
      told_nothing rfl channel ∅
    by_cases here : c = channel
    · subst here
      refine .close ?_ ?_
        ((told.from vacated.deliveries).given (Nat.le_of_eq vacated.keyDraws.symm))
      · exact Set.eq_empty_iff_forall_notMem.mpr (empty rfl)
      · exact getKey_clearChannel.trans (if_pos rfl)
    · exact vacated.elsewhere told rfl (Nat.le_refl _) (getKey_clearChannel.trans (if_neg here)) here
  | false =>
    obtain ⟨drew, told⟩ := rotateAndBroadcast_spec rng lookup connected channel
    have steady : Steady t (t.rotateAndBroadcast cfg env channel).2 :=
      rotateAndBroadcast_rekeys.steady
    exact vacated.rekeyed rng drew steady.sessions told c

end

theorem vacated_unseated (s : VoiceState) (channel : ChannelId) (user : UserId) :
    Vacated s (s.unseated channel user) channel := by
  refine ⟨rfl, rfl, rfl, fun v here => ?_, fun c other v => ?_⟩
  · change (s.sessions.leave channel user).2.userChannel v = some channel at here
    rw [VoiceSessionManager.userChannel_leave] at here
    split at here
    · nomatch here
    · exact here
  · change (s.sessions.leave channel user).2.userChannel v = some c ↔ _
    grind

theorem Vacated.quiet (vacated : Vacated s t channel) (quiet : Quiet t s') :
    Vacated s s' channel := by
  exact ⟨quiet.keys.trans vacated.keys, quiet.keyDraws.trans vacated.keyDraws,
    quiet.deliveries.trans vacated.deliveries, quiet.sessions ▸ vacated.fewer,
    quiet.sessions ▸ vacated.others⟩

include connected in
theorem OwnersConnected.unseated (channel : ChannelId) (user : UserId) :
    (s.unseated channel user).roster.OwnersConnected := by
  intro v seat seated
  change (s.sessions.leave channel user).2.voiceState v = some seat at seated
  rw [VoiceSessionManager.voiceState_leave] at seated
  split at seated
  · nomatch seated
  · exact connected v seat seated

/-- `leave` says the channel is empty only when it is. -/
theorem empty_of_leave (said : (s.sessions.leave channel user).1 = true) (v : UserId) :
    (s.unseated channel user).sessions.userChannel v ≠ some channel := by
  obtain ⟨member, last⟩ := VoiceSessionManager.leave_emptied_iff.mp said
  change (s.sessions.leave channel user).2.userChannel v ≠ some channel
  grind

include rng lookup connected in
theorem left_refines (c : ChannelId) :
    Ledger.Turn lands loose (s.ledger cfg c)
      ((s.handleParticipantLeft cfg env event).ledger cfg c) := by
  have unseated := OwnersConnected.unseated connected event.channelId event.userId
  by_cases fits : s.LeaveFits env event
  · obtain ⟨t, quiet, is⟩ := handleParticipantLeft_departs cfg fits
    rw [is]
    exact ((vacated_unseated s _ _).quiet quiet).refines rng lookup (quiet.roster ▸ unseated)
      VoiceSessionManager.isEmpty_iff.mp c
  · rw [handleParticipantLeft_unfit fits]
    exact (onReconciler_quiet _).refines c

include rng lookup connected in
theorem forced_refines (c : ChannelId) :
    Ledger.Turn lands loose (s.ledger cfg c)
      ((s.forceLocalLeave cfg env user channel).ledger cfg c) := by
  have unseated := OwnersConnected.unseated connected channel user
  have quiet : Quiet (s.unseated channel user)
      (((s.unseated channel user).announceRemove env channel user).dismiss env user) :=
    announceRemove_quiet.trans dismiss_quiet
  refine ((vacated_unseated s _ _).quiet quiet).refines rng lookup (quiet.roster ▸ unseated) ?_ c
  intro said v
  exact empty_of_leave said v

theorem finished_refines (c : ChannelId) :
    Ledger.Turn lands loose (s.ledger cfg c) ((s.onChannelFinish env channel).ledger cfg c) := by
  have quiet := onChannelFinish_quiet env s channel
  have sessions : (s.onChannelFinish env channel).sessions = (s.sessions.clearChannel channel).2 :=
    quiet.sessions
  have told : ∀ users, Told s (s.onChannelFinish env channel) c users none :=
    told_nothing quiet.deliveries c
  have keys : (s.onChannelFinish env channel).keys.getKey c =
      if c = channel then none else s.keys.getKey c := by
    rw [onChannelFinish_keys, getKey_clearChannel]
  have members : ∀ v, (s.onChannelFinish env channel).sessions.userChannel v = some c ↔
      c ≠ channel ∧ s.sessions.userChannel v = some c := by
    intro v
    rw [sessions, VoiceSessionManager.userChannel, VoiceSessionManager.voiceState_clearChannel]
    split
    · grind
    · rename_i elsewhere
      constructor
      · intro here
        exact ⟨fun same => elsewhere (same ▸ here), here⟩
      · exact And.right
  have given : Ledger.Given (s.ledger cfg c) ((s.onChannelFinish env channel).ledger cfg c) ∅ none :=
    (told ∅).given (Nat.le_of_eq quiet.keyDraws.symm)
  by_cases here : c = channel
  · refine .close ?_ (keys.trans (if_pos here)) given
    refine Set.eq_empty_iff_forall_notMem.mpr fun v member => ?_
    exact ((members v).mp member).1 here
  · refine .idle (keys.trans (if_neg here)) ?_ given
    ext v
    exact (members v).trans ⟨And.right, fun tracked => ⟨here, tracked⟩⟩

/-! ## Landings -/

section Landings

variable {intent : PendingJoinIntent}

theorem userChannel_seat : (s.seat event intent).2.userChannel v =
    if v = event.userId then some event.channelId else s.sessions.userChannel v := by
  unfold VoiceSessionManager.userChannel
  rw [voiceState_seat]
  split <;> rfl

include connected in
theorem OwnersConnected.seated
    (arrives : s.sessionManager.sessionIdHasConnections intent.sessionId = true) :
    (s.seated env event intent).roster.OwnersConnected := by
  intro v seat taken
  change (s.seat event intent).2.voiceState v = some seat at taken
  rw [voiceState_seat] at taken
  split at taken
  · obtain rfl := Option.some.inj taken
    exact arrives
  · exact connected v seat taken

include lookup connected in
/-- An applied join hands the newcomer the current key, if there is one. -/
theorem applyJoin_told (arrives : s.sessionManager.sessionIdHasConnections intent.sessionId = true) :
    (s.applyJoin cfg env event intent).keyDraws = s.keyDraws ∧
      Told s (s.applyJoin cfg env event intent) event.channelId {event.userId}
        (s.keys.getKey event.channelId) := by
  have quiet : Quiet (s.seated env event intent)
      ((s.seated env event intent).greet cfg env event intent (s.seat event intent).1) := greet_quiet
  unfold applyJoin
  generalize (s.seated env event intent).greet cfg env event intent (s.seat event intent).1 =
    greeted at quiet
  have tracked : greeted.sessions.userChannel event.userId = some event.channelId := by
    rw [quiet.sessions]
    exact userChannel_seat.trans (if_pos rfl)
  have told := resyncToUser_told lookup
    (by rw [quiet.roster]; exact OwnersConnected.seated connected arrives) tracked
  rw [show greeted.keys = s.keys from quiet.keys] at told
  exact ⟨quiet.keyDraws, told.from quiet.deliveries⟩

/-- What an admitted join must bring: a connected session, a landing the group
allows, and, in a tight group, a user who is nowhere else. -/
structure Arrives (cfg : Config) (lands : Ledger UserId ChannelKey → UserId → Prop) (loose : Prop)
    (s : VoiceState) (event : LiveKitEvent) (intent : PendingJoinIntent) : Prop where
  connected : s.sessionManager.sessionIdHasConnections intent.sessionId = true
  lands : lands (s.ledger cfg event.channelId) event.userId
  moves : loose ∨ ∀ d, s.sessions.userChannel event.userId = some d → d = event.channelId

include lookup connected in
theorem joined_refines (arrives : ∀ intent, s.correlatedIntent env event = some intent →
      Arrives cfg lands loose s event intent) (c : ChannelId) :
    Ledger.Turn lands loose (s.ledger cfg c)
      ((s.handleParticipantJoined cfg env event).ledger cfg c) := by
  cases correlated : s.correlatedIntent env event with
  | none => exact (handleParticipantJoined_rejected correlated).refines c
  | some intent =>
    obtain ⟨live, allowed, moves⟩ := arrives intent correlated
    set quieted := s.heard event
    -- Settling the intent touches no ledger.
    have shape : (s.handleParticipantJoined cfg env event).ledger cfg c =
        (quieted.applyJoin cfg env event intent).ledger cfg c := by
      rw [handleParticipantJoined_eq correlated]
      rfl
    have keys : (quieted.applyJoin cfg env event intent).keys = s.keys := applyJoin_keys
    obtain ⟨keyDraws, told⟩ :
        (quieted.applyJoin cfg env event intent).keyDraws = s.keyDraws ∧
          Told s (quieted.applyJoin cfg env event intent) event.channelId {event.userId}
            (s.keys.getKey event.channelId) := applyJoin_told (s := quieted) lookup connected live
    have steady : Steady (quieted.seated env event intent) (quieted.applyJoin cfg env event intent) :=
      applyJoin_steady
    have sessions : (quieted.applyJoin cfg env event intent).sessions = (s.seat event intent).2 :=
      steady.sessions
    rw [shape]
    generalize quieted.applyJoin cfg env event intent = s' at keys keyDraws told sessions
    have draws : s.keyDraws ≤ s'.keyDraws := Nat.le_of_eq keyDraws.symm
    have current : (s'.ledger cfg c).current = (s.ledger cfg c).current := current_of_keys keys
    have members : ∀ v, v ∈ (s'.ledger cfg c).members ↔
        if v = event.userId then event.channelId = c else v ∈ (s.ledger cfg c).members := by
      intro v
      change s'.sessions.userChannel v = some c ↔ _
      rw [sessions, userChannel_seat]
      split
      · simp
      · exact Iff.rfl
    by_cases here : c = event.channelId
    · subst here
      refine .land event.userId allowed current ?_ (told.given draws)
      ext v
      rw [members]
      by_cases mine : v = event.userId <;> simp [mine]
    · have given : Ledger.Given (s.ledger cfg c) (s'.ledger cfg c) ∅ none :=
        told.elsewhere draws here
      by_cases was : event.userId ∈ (s.ledger cfg c).members
      · rcases moves with slips | nowhere
        · refine .slip slips (fun v stays => ?_) current given
          rw [members] at stays
          split at stays
          · exact absurd stays.symm here
          · exact stays
        · exact absurd (nowhere c was) here
      · refine .idle current ?_ given
        ext v
        rw [members]
        split
        · rename_i mine
          rw [mine]
          exact ⟨fun same => absurd same.symm here, fun inside => absurd inside was⟩
        · exact Iff.rfl

end Landings

/-! ## Acquiring a key -/

section Acquire

theorem vacated_refl (s : VoiceState) (channel : ChannelId) : Vacated s s channel :=
  ⟨rfl, rfl, rfl, fun _ => id, fun _ _ _ => Iff.rfl⟩

/-- A change of the key tables that no reader of keys can see. -/
theorem onKeys_refines {change : KeyTables → KeyTables}
    (unseen : ∀ c, (change s.keys).getKey c = s.keys.getKey c) (c : ChannelId) :
    Ledger.Turn lands loose (s.ledger cfg c) ((s.onKeys change).ledger cfg c) := by
  have told : Told s (s.onKeys change) c ∅ none := told_nothing rfl c ∅
  exact .idle (unseen c) rfl (told.given (Nat.le_refl _))

/-- What an acquisition does to the ledgers, and that a usable key it returns is
the channel's current one. -/
structure Acquires (cfg : Config) (lands : Ledger UserId ChannelKey → UserId → Prop) (loose : Prop)
    (s : VoiceState) (channel : ChannelId) (acquired : Option ChannelKey × VoiceState) : Prop where
  current : ∀ key, acquired.1 = some key → key.key ≠ "" →
    acquired.2.keys.getKey channel = some key
  refines : ∀ c, Ledger.Turn lands loose (s.ledger cfg c) (acquired.2.ledger cfg c)

theorem Drew.acquires {key : ChannelKey} (drew : Drew cfg s s' channel key) (rng : cfg.DrawsKeys)
    (sessions : s'.sessions = s.sessions)
    (told : Told s s' channel {v | s.sessions.userChannel v = some channel} (some key)) :
    Acquires cfg lands loose s channel (some key, s') where
  current := by
    rintro _ ⟨⟩ _
    exact drew.here
  refines := (vacated_refl s channel).rekeyed rng drew sessions told

include rng lookup connected in
theorem acquireShared_acquires :
    Acquires cfg lands loose s channel (s.acquireShared cfg env channel user) := by
  have recorded : ∀ c, (s.keys.recordJoin env channel user).getKey c = s.keys.getKey c :=
    fun _ => rfl
  simp only [acquireShared]
  split
  · rename_i key current
    refine ⟨fun key' same _ => ?_, onKeys_refines recorded⟩
    obtain rfl := Option.some.inj same
    split at current
    · exact current
    · cases current
  · set t := s.onKeys (·.recordJoin env channel user)
    obtain ⟨drew, told⟩ := rotateAndBroadcast_spec (s := t) rng lookup connected channel
    have steady : Steady t (t.rotateAndBroadcast cfg env channel).2 :=
      rotateAndBroadcast_rekeys.steady
    have acquires : Acquires cfg lands loose t channel _ :=
      drew.acquires rng steady.sessions told
    exact ⟨acquires.current, acquires.refines⟩

/-- Without a key in memory, `get_or_create_key` draws one. -/
theorem getOrCreateKey_draws (rng : cfg.DrawsKeys) (missing : s.keys.getKey channel = none) :
    Draws cfg s channel (s.getOrCreateKey cfg channel) := by
  simp only [getOrCreateKey, missing]
  exact drawKey_draws rng 0

theorem acquireFresh_acquires (rng : cfg.DrawsKeys) (missing : s.keys.getKey channel = none)
    (empty : ∀ v, s.sessions.userChannel v ≠ some channel) :
    Acquires cfg lands loose s channel (s.acquireFresh cfg env channel) := by
  obtain ⟨key, t, created, drew, roster, deliveries⟩ := getOrCreateKey_draws rng missing
  simp only [acquireFresh, created]
  refine drew.persisted.acquires rng (congrArg Roster.sessions roster) ?_
  exact ⟨[], deliveries, by simp, fun v inside _ => absurd inside (empty v)⟩

/-- A stored key comes with an index of the keyring, and reading it back changes
no key in memory. -/
theorem loadFromStorage_some {k keys : KeyTables} {key : ChannelKey}
    (loaded : k.loadFromStorage cfg env channel = (some key, keys)) :
    key.keyIndex % keyringSize = key.keyIndex ∧ keys.channels = k.channels := by
  unfold KeyTables.loadFromStorage at loaded
  split at loaded
  · nomatch (Prod.mk.inj loaded).1
  · split at loaded
    · nomatch (Prod.mk.inj loaded).1
    · split at loaded
      · nomatch (Prod.mk.inj loaded).1
      · split at loaded
        · nomatch (Prod.mk.inj loaded).1
        · obtain ⟨answer, rfl⟩ := Prod.mk.inj loaded
          obtain rfl := Option.some.inj answer
          exact ⟨Nat.mod_mod _ _, rfl⟩

theorem getKey_setKey {k : KeyTables} {key : ChannelKey} :
    (k.setKey channel key).getKey c =
      if c = channel then (some (⟨key.key, key.keyIndex % keyringSize⟩ : ChannelKey)).filter
        (·.key ≠ "")
      else k.getKey c := by
  simp only [KeyTables.setKey, KeyTables.getKey, Map.lookup_insert_if]
  split <;> rfl

/-- What may be found in storage when there is no key in memory: nothing, or, in a
loose group, a key for an empty channel. -/
def StoredHarmless (cfg : Config) (env : Env) (loose : Prop) (s : VoiceState) (channel : ChannelId) :
    Prop :=
  ∀ key keys, s.keys.loadFromStorage cfg env channel = (some key, keys) →
    loose ∧ ∀ v, s.sessions.userChannel v ≠ some channel

include rng lookup connected in
theorem acquireRecovered_acquires (missing : s.keys.getKey channel = none)
    (harmless : StoredHarmless cfg env loose s channel) :
    Acquires cfg lands loose s channel (s.acquireRecovered cfg env channel) := by
  unfold acquireRecovered
  split
  · rename_i key keys loaded
    obtain ⟨slack, empty⟩ := harmless key keys loaded
    obtain ⟨index, channels⟩ := loadFromStorage_some loaded
    have keysAt : ∀ c, ((keys.setKey channel key).persistToStorage cfg env channel key).getKey c =
        if c = channel then (some key).filter (·.key ≠ "") else s.keys.getKey c := by
      intro c
      rw [getKey_persistToStorage, getKey_setKey, index]
      simp only [KeyTables.getKey, channels]
    refine ⟨fun key' same nonempty => ?_, fun c => ?_⟩
    · grind
    · set s' : VoiceState :=
        { s with keys := (keys.setKey channel key).persistToStorage cfg env channel key }
      have told : Told s s' c ∅ none := told_nothing rfl c ∅
      by_cases here : c = channel
      · subst here
        exact .adopt slack (Set.eq_empty_iff_forall_notMem.mpr empty) (told.given (Nat.le_refl _))
      · exact .idle ((keysAt c).trans (if_neg here)) rfl (told.given (Nat.le_refl _))
  · rename_i keys nothing
    obtain rfl : keys = s.keys := by
      unfold KeyTables.loadFromStorage at nothing
      grind
    obtain ⟨key, t, created, drew, roster, deliveries⟩ := getOrCreateKey_draws rng missing
    rw [created]
    exact drew.published.acquires rng (congrArg Roster.sessions roster)
      (published_told roster deliveries lookup connected)

theorem empty_of_effectivelyEmpty (empty : s.isChannelEffectivelyEmpty env channel = some true)
    (v : UserId) : s.sessions.userChannel v ≠ some channel := by
  unfold isChannelEffectivelyEmpty at empty
  split at empty
  · nomatch empty
  · rename_i none
    exact VoiceSessionManager.isEmpty_iff.mp (by simpa using none) v

include rng lookup connected in
theorem acquireAlone_acquires
    (harmless : s.keys.getKey channel = none → StoredHarmless cfg env loose s channel) :
    Acquires cfg lands loose s channel (s.acquireAlone cfg env channel) := by
  unfold acquireAlone
  split
  · rename_i key current
    refine ⟨fun key' same _ => ?_, onKeys_refines fun _ => getKey_persistToStorage⟩
    obtain rfl := Option.some.inj same
    exact getKey_persistToStorage.trans current
  · rename_i missing
    split
    · rename_i empty
      exact acquireFresh_acquires rng missing (empty_of_effectivelyEmpty empty)
    · exact acquireRecovered_acquires rng lookup connected missing (harmless missing)

include rng lookup connected in
/-- **Acquiring a key for a join** is one turn of each channel's ledger, and the key
that comes back is the channel's current key. -/
theorem acquireForJoin_refines
    (harmless : s.keys.getKey channel = none → StoredHarmless cfg env loose s channel) :
    (∀ key, (s.acquireForJoin cfg env channel user).1 = .ok key →
        (s.acquireForJoin cfg env channel user).2.keys.getKey channel = some key) ∧
      ∀ c, Ledger.Turn lands loose (s.ledger cfg c)
        ((s.acquireForJoin cfg env channel user).2.ledger cfg c) := by
  simp only [acquireForJoin]
  generalize shape : (if s.otherMembersPresent channel user = true then
    s.acquireShared cfg env channel user else s.acquireAlone cfg env channel) = acquired
  have acquires : Acquires cfg lands loose s channel acquired := by
    rw [← shape]
    split
    · exact acquireShared_acquires rng lookup connected
    · exact acquireAlone_acquires rng lookup connected harmless
  obtain ⟨answer, t⟩ := acquired
  split
  · rename_i key usable
    obtain ⟨rfl, nonempty⟩ := Option.filter_eq_some_iff.mp usable
    refine ⟨fun key' same => ?_, acquires.refines⟩
    obtain rfl := Except.ok.inj same
    exact acquires.current key rfl (by simpa using nonempty)
  · exact ⟨fun key' same => absurd same (by simp), acquires.refines⟩

end Acquire

/-! ## Steps -/

/-- What a join move must bring, for every intent it is admitted under. -/
def MoveArrives (cfg : Config) (lands : Ledger UserId ChannelKey → UserId → Prop) (loose : Prop)
    (s : VoiceState) : Move → Prop
  | .joined env event => ∀ intent, s.correlatedIntent env event = some intent →
      Arrives cfg lands loose s event intent
  | .left .. | .forced .. | .finished .. => True

theorem move_refines (rng : cfg.DrawsKeys) (lookup : m.env.FindsChannels)
    (connected : s.roster.OwnersConnected) (arrives : MoveArrives cfg lands loose s m)
    (c : ChannelId) : Ledger.Turn lands loose (s.ledger cfg c) ((s.move cfg m).ledger cfg c) := by
  cases m with
  | joined env event => exact joined_refines lookup connected arrives c
  | left env event => exact left_refines rng lookup connected c
  | forced env user channel => exact forced_refines rng lookup connected c
  | finished env channel => exact finished_refines c

include connected in
theorem move_connected (arrives : MoveArrives cfg lands loose s m) :
    (s.move cfg m).roster.OwnersConnected := by
  intro user seat seated
  have inherits : Inherits s.roster (s.move cfg m).roster := move_inherits m
  rw [inherits.sessionManager]
  by_cases before : s.sessions.voiceState user = some seat
  · exact connected user seat before
  · cases m with
    | joined env event =>
      cases correlated : s.correlatedIntent env event with
      | none =>
        rw [move, (handleParticipantJoined_rejected correlated).roster] at seated
        exact absurd seated before
      | some intent =>
        rw [move, (handleParticipantJoined_admitted correlated).roster] at seated
        change (s.seat event intent).2.voiceState user = some seat at seated
        rw [voiceState_seat] at seated
        split at seated
        · obtain rfl := Option.some.inj seated
          exact (arrives intent correlated).connected
        · exact absurd seated before
    | left env event => exact absurd (left_seats seated) before
    | forced env user channel => exact absurd (forced_seats seated) before
    | finished env channel => exact absurd (finished_seats seated) before

variable {sessions : VoiceSessionManager}

/-- A session opened takes no connection from another. -/
theorem Opened.keeps (opened : Opened s s' conn user m sessions)
    (live : s.sessionManager.sessionIdHasConnections sid = true) :
    m.sessionIdHasConnections sid = true := by
  rw [SessionManager.sessionIdHasConnections_iff] at live ⊢
  obtain ⟨k, filed⟩ := live
  refine ⟨k, ?_⟩
  rw [opened.tables]
  simp only [SessionTables.openSession, Map.lookup_insert_if]
  rw [if_neg]
  · exact filed
  · rintro rfl
    rw [opened.unfiled] at filed
    cases filed

theorem Opened.opens (opened : Opened s s' conn user m sessions) :
    m.sessionIdHasConnections (s.sessionManager.tables.nextSessionId + 1) = true := by
  rw [SessionManager.sessionIdHasConnections_iff]
  refine ⟨conn, ?_⟩
  rw [opened.tables]
  simp [SessionTables.openSession]

theorem Opened.ownersConnected (opened : Opened s s' conn user m sessions)
    (connected : s.roster.OwnersConnected) : s'.roster.OwnersConnected := by
  rw [opened.becomes.roster]
  intro v seat seated
  rcases opened.handed v with same | ⟨rfl, before, -, after⟩
  · exact opened.keeps (connected v seat (same.symm.trans seated))
  · rw [after, Option.some.injEq] at seated
    subst seated
    exact opened.opens

theorem authenticate_refines (c : ChannelId) : Ledger.Turn lands loose (s.ledger cfg c)
      ((s.authenticate cfg env conn user resume).ledger cfg c) := by
  rcases authenticate_cases cfg env s conn user resume with quiet | ⟨-, m, sessions, opened⟩
  · exact quiet.refines c
  generalize s.authenticate cfg env conn user resume = s' at opened
  have current : (s'.ledger cfg c).current = (s.ledger cfg c).current :=
    current_of_keys opened.keys
  have members : (s'.ledger cfg c).members = (s.ledger cfg c).members := by
    ext v
    change s'.sessions.userChannel v = some c ↔ s.sessions.userChannel v = some c
    rw [opened.becomes.sessions, opened.handed.userChannel v]
  have draws : s.keyDraws ≤ s'.keyDraws := Nat.le_of_eq opened.keyDraws.symm
  obtain ⟨new, added, resynced⟩ := opened.resynced
  cases new with
  | nil => exact .idle current members ((told_nothing added c ∅).given draws)
  | cons first rest =>
    obtain ⟨-, tracked, key⟩ := resynced first List.mem_cons_self
    have told : Told s s' first.channel {user} (s.keys.getKey first.channel) := by
      refine ⟨first :: rest, added, fun given listed => ?_, fun v mine _ => ?_⟩
      · grind
      · grind
    by_cases here : c = first.channel
    · subst here
      exact .hand user tracked current members (told.given draws)
    · exact .idle current members (told.elsewhere draws here)

include rng lookup connected in
/-- **A `VOICE_JOIN` is a step of each ledger**: turns, then a token with the
current key. -/
theorem voiceJoin_refines (harmless : s.keys.getKey request.channel = none →
      StoredHarmless cfg env loose s request.channel) (c : ChannelId) :
    Ledger.Step lands loose (s.ledger cfg c) ((s.voiceJoin cfg env request).ledger cfg c) := by
  rcases voiceJoin_cases cfg env s request with quiet | ⟨user, sessionId, t, -, quiet, ending⟩
  · exact .of_turns (.single (quiet.refines c))
  have started : Quiet s (t.acquireStart request.channel) := quiet.trans acquireStart_quiet
  obtain ⟨current, turn⟩ :
      (∀ key, (t.acquiredKey cfg env request.channel user).1 = .ok key →
          (t.acquiredKey cfg env request.channel user).2.keys.getKey request.channel = some key) ∧
        ∀ c, Ledger.Turn lands loose ((t.acquireStart request.channel).ledger cfg c)
          ((t.acquiredKey cfg env request.channel user).2.ledger cfg c) := by
    refine acquireForJoin_refines rng lookup (started.roster ▸ connected) ?_
    unfold StoredHarmless
    rw [started.keys, started.sessions]
    exact harmless
  have turns : Relation.ReflTransGen (Ledger.Turn lands loose) (s.ledger cfg c)
      ((t.acquiredKey cfg env request.channel user).2.ledger cfg c) :=
    (Relation.ReflTransGen.single (started.refines c)).tail (turn c)
  rcases ending with refused | ⟨key, answer, issued⟩
  · exact .of_turns (turns.tail (refused.refines c))
  · have now := current key answer
    have steady : Steady t (t.acquiredKey cfg env request.channel user).2 := acquiredKey_steady
    generalize (t.acquiredKey cfg env request.channel user).2 = mid at *
    generalize s.voiceJoin cfg env request = s' at *
    have sessions : s'.sessions = mid.sessions := by
      rw [steady.sessions, quiet.sessions]
      exact congrArg Roster.sessions issued.roster
    have told : Told mid s' request.channel {user} (some key) :=
      ⟨_, issued.deliveries, by simp, by simp⟩
    have draws : mid.keyDraws ≤ s'.keyDraws := Nat.le_of_eq issued.keyDraws.symm
    have same : (s'.ledger cfg c).current = (mid.ledger cfg c).current :=
      current_of_keys issued.keys
    have members : (s'.ledger cfg c).members = (mid.ledger cfg c).members :=
      members_of_sessions sessions
    by_cases here : c = request.channel
    · subst here
      exact ⟨_, turns, .inr ⟨user, key, now, same, members, told.given draws⟩⟩
    · exact .of_turns (turns.tail (.idle same members (told.elsewhere draws here)))

end VoiceState

namespace Sample

theorem cfg_drawsKeys : cfg.DrawsKeys where
  succeeds := fun n => ⟨drawn 'k' n, rfl, fun empty => by
    have := congrArg String.toList empty
    simp [drawn] at this⟩
  distinct := fun n m same => by
    have := String.ofList_injective (Option.some.inj same)
    simpa using this

theorem env_answers (seconds : Nat) : (env seconds).Answers :=
  ⟨fun _ => ⟨_, rfl⟩, fun _ _ => rfl⟩

end Sample

end Kergit
