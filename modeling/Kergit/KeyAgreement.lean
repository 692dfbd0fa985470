import Kergit.ForwardSecrecy

/-!
One key per channel.

The service means everybody in a channel to hold the key manager's current key:
a rotation is broadcast, a token carries the current key, and a landing hands it
over once more.  `Agrees`, the ledger's word for it, is kept by every step except
one: a join that lands in a channel whose key has been cleared finds nothing to
hand over, and leaves a tracked participant with a stale key, or none, and the
key manager without any.

Redis may fail throughout.  What is assumed, as the property does, is that the
channel lookup and the key draws succeed, that nothing restarts, and that the
owner sessions stay connected (`KeepsOwnersConnected`).
-/

namespace Kergit

open Lib

namespace VoiceState

variable {cfg : Config} {env : Env} {s s' : VoiceState} {channel : ChannelId} {user : UserId}

/-- An admitted join comes in on a session that is connected. -/
def JoinConnected (s : VoiceState) : Move → Prop
  | .joined env event => ∀ intent ∈ s.correlatedIntent env event,
      s.sessionManager.sessionIdHasConnections intent.sessionId = true
  | .left .. | .forced .. | .finished .. => True

instance (s : VoiceState) : (m : Move) → Decidable (s.JoinConnected m)
  | .joined .. | .left .. | .forced .. | .finished .. => by
    unfold JoinConnected
    infer_instance

/-- The owner sessions stay connected: no connection that closes is an owner's, no
join is admitted for a session that is gone, and nothing restarts. -/
def KeepsOwnersConnected (cfg : Config) (s : VoiceState) : Action → Prop
  | .disconnect conn => ∀ seat ∈ s.sessions.tables.userToChannel.entries,
      s.sessionManager.tables.connToSessionId.lookup conn ≠ some seat.2.ownerSession
  | .restart _ => False
  | action => ∀ found ∈ s.movesOf cfg action, found.1.JoinConnected found.2

instance (cfg : Config) (s : VoiceState) (action : Action) :
    Decidable (s.KeepsOwnersConnected cfg action) := by
  cases action <;> unfold KeepsOwnersConnected <;> infer_instance

/-- An admitted join finds a current key for its channel. -/
def JoinFindsKey (s : VoiceState) : Move → Prop
  | .joined env event => s.correlatedIntent env event ≠ none →
      s.keys.getKey event.channelId ≠ none
  | .left .. | .forced .. | .finished .. => True

instance (s : VoiceState) : (m : Move) → Decidable (s.JoinFindsKey m)
  | .joined .. | .left .. | .forced .. | .finished .. => by
    unfold JoinFindsKey
    infer_instance

/-- Every join the action applies finds a current key. -/
def JoinsFindKey (cfg : Config) (s : VoiceState) (action : Action) : Prop :=
  ∀ found ∈ s.movesOf cfg action, found.1.JoinFindsKey found.2
deriving Decidable

/-- A landing on a current key. -/
abbrev Keyed (l : Ledger UserId ChannelKey) (_ : UserId) : Prop := l.current ≠ none

theorem arrives_keyed (connected : s.JoinConnected m) (keyed : s.JoinFindsKey m) :
    MoveArrives cfg Keyed True s m := by
  cases m with
  | joined env event =>
    intro intent correlated
    exact ⟨connected intent correlated, keyed (by rw [correlated]; simp), .inl trivial⟩
  | left | forced | finished => trivial

/-- What the run keeps: connected owners, and in every channel one key for all. -/
structure InTune (cfg : Config) (s : VoiceState) : Prop where
  connected : s.roster.OwnersConnected
  agrees : ∀ c, (s.ledger cfg c).Agrees

theorem Turns.inTune
    (turns : Turns cfg (fun t m => m.env.FindsChannels ∧ t.JoinConnected m ∧ t.JoinFindsKey m) s s')
    (rng : cfg.DrawsKeys) (inTune : InTune cfg s) : InTune cfg s' := by
  refine turns.invariant (InTune cfg) ?_ ?_ inTune
  · intro t t' quiet kept
    have idle : ∀ c, Ledger.Turn Keyed True (t.ledger cfg c) (t'.ledger cfg c) := quiet.refines
    exact ⟨quiet.roster ▸ kept.connected, fun c => (idle c).agrees (kept.agrees c)⟩
  · rintro t m ⟨lookup, connected, keyed⟩ kept
    have arrives : MoveArrives cfg Keyed True t m := arrives_keyed connected keyed
    exact ⟨move_connected kept.connected arrives,
      fun c => (move_refines rng lookup kept.connected arrives c).agrees (kept.agrees c)⟩

theorem voiceJoin_inTune (rng : cfg.DrawsKeys)
    (lookup : env.FindsChannels) (inTune : InTune cfg s) :
    InTune cfg (s.voiceJoin cfg env request) := by
  have steps : ∀ c, Ledger.Step Keyed True (s.ledger cfg c)
      ((s.voiceJoin cfg env request).ledger cfg c) := by
    refine voiceJoin_refines rng lookup inTune.connected fun missing key keys loaded => ?_
    -- Whoever was tracked would hold a current key, and there is none.
    refine ⟨trivial, fun v tracked => ?_⟩
    obtain ⟨held, current, -⟩ := inTune.agrees request.channel v tracked
    nomatch missing.symm.trans current
  refine ⟨?_, fun c => (steps c).agrees (inTune.agrees c)⟩
  rcases voiceJoin_roster cfg env s request with same | ⟨_, _, _, _, _, -, issued⟩
  · exact same ▸ inTune.connected
  · rw [issued.roster]
    exact inTune.connected

theorem authenticate_inTune
    (inTune : InTune cfg s) : InTune cfg (s.authenticate cfg env conn user resume) := by
  have turns : ∀ c, Ledger.Turn Keyed True (s.ledger cfg c)
      ((s.authenticate cfg env conn user resume).ledger cfg c) := authenticate_refines
  refine ⟨?_, fun c => (turns c).agrees (inTune.agrees c)⟩
  rcases authenticate_cases cfg env s conn user resume with quiet | ⟨-, m, sessions, opened⟩
  · exact quiet.roster ▸ inTune.connected
  · exact opened.ownersConnected inTune.connected

theorem disconnect_inTune (spares : ∀ seat ∈ s.sessions.tables.userToChannel.entries,
      s.sessionManager.tables.connToSessionId.lookup conn ≠ some seat.2.ownerSession)
    (inTune : InTune cfg s) : InTune cfg (s.disconnect conn) := by
  rcases disconnect_cases s conn with same | quiet
  · rw [same]
    exact inTune
  · have idle : ∀ c, Ledger.Turn Keyed True (s.ledger cfg c) ((s.disconnect conn).ledger cfg c) :=
      quiet.refines
    refine ⟨?_, fun c => (idle c).agrees (inTune.agrees c)⟩
    rw [quiet.roster]
    intro v seat seated
    obtain ⟨k, filed⟩ := SessionManager.sessionIdHasConnections_iff.mp
      (inTune.connected v seat seated)
    refine SessionManager.sessionIdHasConnections_iff.mpr ⟨k, ?_⟩
    change (s.sessionManager.removeConnection conn).tables.connToSessionId.lookup k = _
    rw [SessionManager.connToSessionId_removeConnection, if_neg]
    · exact filed
    · rintro rfl
      exact spares ⟨v, seat⟩ (AList.mem_lookup_iff.mp seated) filed

theorem step_inTune (rng : cfg.DrawsKeys) (finds : action.Finds Env.FindsChannels)
    (owners : s.KeepsOwnersConnected cfg action) (keyed : s.JoinsFindKey cfg action)
    (inTune : InTune cfg s) : InTune cfg (s.step cfg action) := by
  have lookups : ∀ found ∈ s.movesOf cfg action, found.2.env.FindsChannels := movesOf_env finds
  cases action with
  | authenticate env conn user resume => exact authenticate_inTune inTune
  | disconnect conn => exact disconnect_inTune owners inTune
  | voiceJoin env request => exact voiceJoin_inTune rng finds inTune
  | webhook | reconcile =>
    refine Turns.inTune (step_turns rfl fun found listed => ?_) rng inTune
    exact ⟨lookups found listed, owners found listed, keyed found listed⟩
  | restart env => exact owners.elim

theorem initial_inTune (cfg : Config) (limit missingTtl : Nat) (nodes : List LivekitNode) :
    InTune cfg (initial limit missingTtl nodes) :=
  ⟨(initial_orderly cfg limit missingTtl nodes).connected.seats,
    fun _ user tracked => absurd tracked (by simp [ledger, initial, VoiceSessionManager.userChannel])⟩

/-- **One key per channel.**  In every run without a restart in which the lookups and
the key draws succeed and owner sessions stay connected, Redis or no Redis, if
every join lands on a current key, then at every point of the run the key manager
has a key for each channel with tracked participants, and it is the last key each
of them was handed, index included. -/
theorem tracked_hold_current_key (cfg : Config) (rng : cfg.DrawsKeys) (limit missingTtl : Nat)
    (nodes : List LivekitNode) (actions : List Action)
    (finds : ∀ action ∈ actions, action.Finds Env.FindsChannels)
    (owners : Staged (step cfg) (KeepsOwnersConnected cfg) (initial limit missingTtl nodes) actions)
    (keyed : Staged (step cfg) (JoinsFindKey cfg) (initial limit missingTtl nodes) actions)
    (before : List Action) (reached : before <+: actions) (channel : ChannelId) (user : UserId)
    (tracked : (run (step cfg) (initial limit missingTtl nodes) before).sessions.userChannel user =
      some channel) :
    ∃ key, (run (step cfg) (initial limit missingTtl nodes) before).keys.getKey channel = some key ∧
      (run (step cfg) (initial limit missingTtl nodes) before).lastKey user channel = some key := by
  obtain ⟨rest, rfl⟩ := reached
  have stages := (owners.and keyed).and_forall finds
  obtain ⟨staged, -⟩ := staged_append.mp stages
  have inTune := staged.invariant (InTune cfg)
    (fun s action kept allowed => step_inTune rng allowed.1 allowed.2.1 allowed.2.2 kept)
    (initial_inTune cfg limit missingTtl nodes)
  exact inTune.agrees channel user tracked

end VoiceState

namespace Emptied

open VoiceState Sample

/-- Ada in the lounge; Bob asks twice, the second time within the debounce, and lands. -/
def retried : List Action :=
  adaAhead ++ [ask (env 2) bob lounge, ask (env 3) bob lounge, .disconnect (connOf eve),
    landed (env 4) bob lounge 2 "nnnnn"]

theorem tracked_hold_current_key_retried :
    ∃ key, (run (step cfg) start retried).keys.getKey lounge = some key ∧
      (run (step cfg) start retried).lastKey ada lounge = some key := by
  have finds : ∀ seconds, (env seconds).FindsChannels := fun seconds => (env_answers seconds).lookup
  exact tracked_hold_current_key cfg cfg_drawsKeys 0 30 nodes retried
    (by simp [retried, adaAhead, signIn, ask, landed, Action.Finds, finds]) (by decide) (by decide)
    retried (List.prefix_refl _) lounge ada (by decide)

/-- **Bob is tracked and the key manager has no key.**  The channel emptied, and its
key was cleared, between Bob's token and his landing. -/
theorem landing_finds_no_key :
    ¬ ∀ (actions before : List Action) (channel : ChannelId) (user : UserId),
      (∀ action ∈ actions, action.Finds Env.FindsChannels) →
      Staged (step cfg) (KeepsOwnersConnected cfg) start actions → before <+: actions →
      (run (step cfg) start before).sessions.userChannel user = some channel →
      ∃ key, (run (step cfg) start before).keys.getKey channel = some key ∧
        (run (step cfg) start before).lastKey user channel = some key := by
  intro always
  have finds : ∀ seconds, (env seconds).FindsChannels := fun seconds => (env_answers seconds).lookup
  obtain ⟨key, current, -⟩ := always
    (inFlight ++ [gone (env 4) ada lounge 1 "n", landed (env 5) bob lounge 2 "nnn"]) _ lounge bob
    (by simp [inFlight, adaAhead, signIn, ask, landed, gone, Action.Finds, finds]) (by decide)
    (List.prefix_refl _) (by decide)
  have cleared : (run (step cfg) start
      (inFlight ++ [gone (env 4) ada lounge 1 "n", landed (env 5) bob lounge 2 "nnn"])).keys.getKey
        lounge = none := by decide
  cases cleared.symm.trans current

end Emptied

end Kergit
