import Kergit.ChannelKeyLedger

/-!
What a user who has left a channel can still decrypt.

The rule the service follows is that a departure rotates the channel's key, or
clears it when nobody is left, and that whoever lands is handed the current key.
So nothing a departed user was ever handed should be of use to anybody later.

It fails in one place.  A join token carries the key of the moment it was issued;
if the channel empties before its holder lands, the key is cleared, the landing
finds none to hand over, and the newcomer is left with the token's key — the one
the departed members had too.

- `Backed`: while the key manager has no key for a channel, neither has Redis.
- `LandsKeyed`: a join does not land on a cleared key, and takes its user out of no
  other channel behind that channel's back.
- `departed_keys_are_dead`: in every run whose joins land so, a key a removed user
  was handed is never again the last key of a tracked participant.
- `Emptied`: the run in which the last member leaves while a token is in flight.
-/

namespace Kergit

open Lib

/-! ## Stored keys -/

namespace KeyTables

variable {k : KeyTables}

/-- Redis holds no key for a channel that has none in memory. -/
def Backed (k : KeyTables) : Prop := ∀ c, k.getKey c = none → k.storedBlobs.lookup c = none

theorem Backed.persist (backed : k.Backed) (present : k.getKey channel ≠ none) :
    (k.persistToStorage cfg env channel key).Backed := by
  intro c missing
  rw [VoiceState.getKey_persistToStorage] at missing
  have other : c ≠ channel := fun same => present (same ▸ missing)
  unfold persistToStorage writeStorage Link.setex
  split
  · exact backed c missing
  · split
    · exact backed c missing
    · split
      · rw [Store.put, Map.lookup_insert_if, if_neg other]
        exact backed c missing
      · exact backed c missing

theorem Backed.install (backed : k.Backed) (nonempty : key.key ≠ "") :
    (k.install channel (some key)).Backed := by
  intro c missing
  rw [VoiceState.getKey_install nonempty] at missing
  split at missing
  · nomatch missing
  · exact backed c missing

theorem Backed.clear (backed : k.Backed) (up : env.redis.Up) :
    (k.clearChannel env channel).Backed := by
  intro c missing
  rw [VoiceState.getKey_clearChannel] at missing
  simp only [clearChannel, Link.del_up up, Map.lookup_erase_if]
  split
  · rfl
  · rename_i other
    rw [if_neg other] at missing
    exact backed c missing

/-- With nothing in memory there is nothing to load. -/
theorem Backed.loads_nothing (backed : k.Backed) (missing : k.getKey channel = none) :
    k.loadFromStorage cfg env channel = (none, k) := by
  have absent : env.redis.get keyStorageKey k.storedBlobs channel = none := by
    unfold Link.get Store.live
    rw [backed channel missing]
    split <;> rfl
  unfold loadFromStorage
  split
  · rfl
  · rw [absent]

end KeyTables

namespace VoiceState

variable {s : VoiceState}

theorem rotateAndBroadcast_backed (rng : cfg.DrawsKeys) (backed : s.keys.Backed) :
    (s.rotateAndBroadcast cfg env channel).2.keys.Backed := by
  obtain ⟨text, drawn, nonempty⟩ := rng.succeeds s.keyDraws
  have installed : (s.keys.install channel (some ⟨text, s.keys.nextIndex channel⟩)).Backed :=
    backed.install nonempty
  simp [rotateAndBroadcast, rotateKey, drawKey, drawn]
  refine installed.persist ?_
  rw [getKey_install nonempty]
  simp

theorem getOrCreateKey_backed (channel : ChannelId) (rng : cfg.DrawsKeys) (backed : s.keys.Backed) :
    ∃ key t, s.getOrCreateKey cfg channel = (some key, t) ∧ t.keys.Backed ∧
      t.keys.getKey channel ≠ none := by
  cases current : s.keys.getKey channel with
  | some key =>
    refine ⟨key, s, by simp only [getOrCreateKey, current], backed, ?_⟩
    rw [current]
    simp
  | none =>
    obtain ⟨text, drawn, nonempty⟩ := rng.succeeds s.keyDraws
    have installed : (s.drawKey cfg channel 0).2.keys = s.keys.install channel (some ⟨text, 0⟩) := by
      simp [drawKey, drawn]
    refine ⟨⟨text, 0⟩, (s.drawKey cfg channel 0).2, ?_, ?_, ?_⟩
    · simp [getOrCreateKey, current, drawKey, drawn]
    · rw [installed]
      exact backed.install nonempty
    · rw [installed, getKey_install nonempty]
      simp

theorem acquireForJoin_backed (rng : cfg.DrawsKeys) (backed : s.keys.Backed) :
    (s.acquireForJoin cfg env channel user).2.keys.Backed := by
  have shared : (s.acquireShared cfg env channel user).2.keys.Backed := by
    simp only [acquireShared]
    have recorded : (s.onKeys (·.recordJoin env channel user)).keys.Backed := backed
    split
    · exact recorded
    · exact rotateAndBroadcast_backed rng recorded
  have alone : (s.acquireAlone cfg env channel).2.keys.Backed := by
    unfold acquireAlone
    split
    · rename_i key current
      exact backed.persist (by rw [current]; simp)
    · rename_i missing
      obtain ⟨key, t, created, kept, present⟩ := getOrCreateKey_backed channel rng backed
      split
      · simp only [acquireFresh, created]
        exact kept.persist present
      · simp only [acquireRecovered, backed.loads_nothing missing, created]
        exact kept.persist present
  simp only [acquireForJoin]
  split <;> split
  · exact shared
  · exact alone
  · exact shared
  · exact alone

theorem closeOrRotate_backed (rng : cfg.DrawsKeys) (up : env.redis.Up)
    (backed : s.keys.Backed) : (s.closeOrRotate cfg env channel emptied).keys.Backed := by
  unfold closeOrRotate
  split
  · exact backed.clear up
  · exact rotateAndBroadcast_backed rng backed

theorem move_backed (rng : cfg.DrawsKeys) (up : m.env.redis.Up)
    (backed : s.keys.Backed) : (s.move cfg m).keys.Backed := by
  cases m with
  | joined env event =>
    rw [move, handleParticipantJoined_keys]
    exact backed
  | left env event =>
    by_cases fits : s.LeaveFits env event
    · obtain ⟨t, quiet, is⟩ := handleParticipantLeft_departs cfg fits
      rw [move, is]
      exact closeOrRotate_backed rng up (quiet.keys ▸ backed)
    · rw [move, handleParticipantLeft_unfit fits]
      exact backed
  | forced env user channel =>
    have quiet : Quiet (s.unseated channel user)
        (((s.unseated channel user).announceRemove env channel user).dismiss env user) :=
      announceRemove_quiet.trans dismiss_quiet
    exact closeOrRotate_backed rng up (quiet.keys ▸ backed)
  | finished env channel =>
    rw [move, onChannelFinish_keys]
    exact backed.clear up

/-! ## Connected sessions -/

end VoiceState

/-- Every session on record, in a seat or a pending join, has a connection. -/
abbrev Roster.Connected (r : Roster) : Prop :=
  r.Recorded fun m _ sid => m.sessionIdHasConnections sid = true

namespace VoiceState

variable {cfg : Config} {env : Env} {s s' : VoiceState} {event : LiveKitEvent} {channel : ChannelId}
  {user : UserId}

section

variable (connected : s.roster.Connected)

include connected

theorem correlatedIntent_connected (correlated : s.correlatedIntent env event = some intent) :
    s.sessionManager.sessionIdHasConnections intent.sessionId = true := by
  rcases correlatedIntent_origin correlated with ⟨entry, stored, same⟩ | live
  · exact same ▸ connected.intents _ entry stored
  · exact SessionManager.sessionIdHasConnections_of_mem live

theorem authenticate_connected : (s.authenticate cfg env conn user resume).roster.Connected := by
  rcases authenticate_cases cfg env s conn user resume with quiet | ⟨-, m, sessions, opened⟩
  · rw [quiet.roster]
    exact connected
  · exact opened.recorded (fun v seat seated => opened.keeps (connected.seats v seat seated))
      (fun v entry stored => opened.keeps (connected.intents v entry stored)) opened.opens

theorem voiceJoin_connected : (s.voiceJoin cfg env request).roster.Connected :=
  voiceJoin_recorded connected fun _ _ _ filed => SessionManager.sessionIdHasConnections_iff.mpr
    ⟨request.conn, SessionManager.sessionIdOfConnection_ok.mp filed⟩

end

/-! ## One step -/

/-- The user is tracked in a channel other than this one. -/
def trackedElsewhere (s : VoiceState) (user : UserId) (channel : ChannelId) : Bool :=
  match s.sessions.userChannel user with
  | none => false
  | some current => decide (current ≠ channel)

/-- A join that is admitted does not find its channel's key cleared since its user
was handed one, and does not take its user out of another channel. -/
def LandsKeyed (s : VoiceState) : Move → Prop
  | .joined env event => s.correlatedIntent env event ≠ none →
      (s.lastKey event.userId event.channelId ≠ none → s.keys.getKey event.channelId ≠ none) ∧
        s.trackedElsewhere event.userId event.channelId = false
  | .left .. | .forced .. | .finished .. => True

instance (s : VoiceState) : (m : Move) → Decidable (s.LandsKeyed m)
  | .joined .. | .left .. | .forced .. | .finished .. => by
    unfold LandsKeyed
    infer_instance

theorem LandsKeyed.arrives (lands : s.LandsKeyed m) (connected : s.roster.Connected) :
    MoveArrives cfg Ledger.LandsKeyed False s m := by
  cases m with
  | joined env event =>
    intro intent correlated
    obtain ⟨keyed, nowhere⟩ := lands (by rw [correlated]; simp)
    refine ⟨correlatedIntent_connected connected correlated, keyed, .inr fun d tracked => ?_⟩
    simp only [trackedElsewhere, tracked] at nowhere
    simpa using nowhere
  | left | forced | finished => trivial

/-- What the run keeps: sessions on record are connected, no key is stored that is
not in memory, and keys come from draws only. -/
structure Orderly (cfg : Config) (s : VoiceState) : Prop where
  connected : s.roster.Connected
  backed : s.keys.Backed
  tidy : ∀ c, (s.ledger cfg c).Tidy

/-- What a step did to the ledgers: it keeps dead keys dead, and kills whatever a
member it removed was handed. -/
structure Secures (cfg : Config) (s s' : VoiceState) : Prop where
  orderly : Orderly cfg s'
  steps : ∀ c, Ledger.Step Ledger.LandsKeyed False (s.ledger cfg c) (s'.ledger cfg c)
  departed : ∀ c, ∀ u ∈ (s.ledger cfg c).members, u ∉ (s'.ledger cfg c).members →
    ∀ key ∈ (s'.ledger cfg c).handed u, (s'.ledger cfg c).Dead key

theorem Secures.of_turns (orderly : Orderly cfg s) (connected : s'.roster.Connected)
    (backed : s'.keys.Backed)
    (turns : ∀ c, Relation.ReflTransGen (Ledger.Turn Ledger.LandsKeyed False) (s.ledger cfg c)
      (s'.ledger cfg c)) : Secures cfg s s' where
  orderly := ⟨connected, backed, fun c => (Ledger.Step.of_turns (turns c)).tidy (orderly.tidy c)⟩
  steps := fun c => .of_turns (turns c)
  departed := fun c _ was gone => Ledger.Turn.chain_dead (turns c) (orderly.tidy c) was gone

theorem Turns.secures
    (turns : Turns cfg (fun t m => m.env.Answers ∧ t.LandsKeyed m) s s') (rng : cfg.DrawsKeys)
    (orderly : Orderly cfg s) : Secures cfg s s' := by
  have kept : s'.roster.Connected ∧ s'.keys.Backed ∧
      ∀ c, Relation.ReflTransGen (Ledger.Turn Ledger.LandsKeyed False) (s.ledger cfg c)
        (s'.ledger cfg c) := by
    refine turns.invariant (fun t => t.roster.Connected ∧ t.keys.Backed ∧
      ∀ c, Relation.ReflTransGen (Ledger.Turn Ledger.LandsKeyed False) (s.ledger cfg c)
        (t.ledger cfg c)) ?_ ?_ ⟨orderly.connected, orderly.backed, fun _ => .refl⟩
    · rintro t t' quiet ⟨connected, backed, chain⟩
      exact ⟨quiet.roster ▸ connected, quiet.keys ▸ backed,
        fun c => (chain c).tail (quiet.refines c)⟩
    · rintro t m ⟨answers, lands⟩ ⟨connected, backed, chain⟩
      refine ⟨connected.inherited (move_inherits m) fun _ _ live =>
          SessionManager.sessionIdHasConnections_of_mem live,
        move_backed rng answers.redis backed, fun c => (chain c).tail ?_⟩
      exact move_refines rng answers.lookup connected.seats (lands.arrives connected) c
  exact .of_turns orderly kept.1 kept.2.1 kept.2.2

theorem voiceJoin_secures (rng : cfg.DrawsKeys) (answers : env.Answers) (orderly : Orderly cfg s) :
    Secures cfg s (s.voiceJoin cfg env request) := by
  have steps : ∀ c, Ledger.Step Ledger.LandsKeyed False (s.ledger cfg c)
      ((s.voiceJoin cfg env request).ledger cfg c) := by
    refine voiceJoin_refines rng answers.lookup orderly.connected.seats fun missing key keys loaded => ?_
    rw [orderly.backed.loads_nothing missing] at loaded
    nomatch (Prod.mk.inj loaded).1
  refine ⟨⟨voiceJoin_connected orderly.connected, ?_, fun c => (steps c).tidy (orderly.tidy c)⟩,
    steps, ?_⟩
  · rcases voiceJoin_cases cfg env s request with
      quiet | ⟨user, sessionId, t, -, quiet, acquired | ⟨key, -, issued⟩⟩
    · exact quiet.keys ▸ orderly.backed
    · rw [acquired.keys]
      exact acquireForJoin_backed rng (quiet.keys ▸ orderly.backed)
    · rw [issued.keys]
      exact acquireForJoin_backed rng (quiet.keys ▸ orderly.backed)
  · intro c u was gone
    refine absurd ?_ gone
    change (s.voiceJoin cfg env request).sessions.userChannel u = some c
    rw [voiceJoin_seats.1]
    exact was

end VoiceState

/-- What the property is about: sign-ins, join commands, webhooks and reconciles,
with no connection closed and no restart. -/
def Action.isTraffic : Action → Bool
  | .authenticate .. | .voiceJoin .. | .webhook .. | .reconcile .. => true
  | .disconnect _ | .restart _ => false

namespace VoiceState

variable {cfg : Config} {s : VoiceState}

/-- Every join the action applies lands on a current key. -/
def JoinsLandKeyed (cfg : Config) (s : VoiceState) (action : Action) : Prop :=
  ∀ found ∈ s.movesOf cfg action, found.1.LandsKeyed found.2
deriving Decidable

theorem step_secures (rng : cfg.DrawsKeys) (traffic : action.isTraffic = true)
    (answers : action.Finds Env.Answers) (lands : s.JoinsLandKeyed cfg action)
    (orderly : Orderly cfg s) : Secures cfg s (s.step cfg action) := by
  have guards : ∀ found ∈ s.movesOf cfg action,
      found.2.env.Answers ∧ found.1.LandsKeyed found.2 :=
    fun found listed => ⟨movesOf_env answers found listed, lands found listed⟩
  cases action with
  | authenticate env conn user resume =>
    have keys : (s.authenticate cfg env conn user resume).keys = s.keys := by
      rcases authenticate_cases cfg env s conn user resume with quiet | ⟨-, m, sessions, opened⟩
      · exact quiet.keys
      · exact opened.keys
    exact .of_turns orderly (authenticate_connected orderly.connected)
      (by rw [step, keys]; exact orderly.backed) fun c => .single (authenticate_refines c)
  | voiceJoin env request => exact voiceJoin_secures rng answers orderly
  | webhook | reconcile => exact Turns.secures (step_turns rfl guards) rng orderly
  | disconnect | restart => exact absurd traffic (by simp [Action.isTraffic])

theorem initial_orderly (cfg : Config) (limit missingTtl : Nat) (nodes : List LivekitNode) :
    Orderly cfg (initial limit missingTtl nodes) where
  connected := initial_recorded limit missingTtl nodes
  backed := fun _ _ => rfl
  tidy := fun c =>
    ⟨fun u key handed => by simp [ledger, deliveries, initial] at handed,
      fun key current => by simp [ledger, KeyTables.getKey, initial] at current⟩

/-! ## Every run -/

/-- **Forward secrecy of departures.**  In every run in which the lookups, Redis and
the key draws succeed and every join lands on a current key, a key that a user
was handed before being removed from a channel is never again the last key of
anyone tracked there. -/
theorem departed_keys_are_dead (cfg : Config) (rng : cfg.DrawsKeys) (limit missingTtl : Nat)
    (nodes : List LivekitNode) (actions : List Action)
    (traffic : ∀ action ∈ actions, action.isTraffic = true)
    (answers : ∀ action ∈ actions, action.Finds Env.Answers)
    (lands : Staged (step cfg) (JoinsLandKeyed cfg) (initial limit missingTtl nodes) actions)
    (before later : List Action) (action : Action)
    (reached : before ++ [action] ++ later <+: actions) (user : UserId) (channel : ChannelId)
    (was : (run (step cfg) (initial limit missingTtl nodes) before).sessions.userChannel user =
      some channel)
    (gone : (run (step cfg) (initial limit missingTtl nodes)
      (before ++ [action])).sessions.userChannel user ≠ some channel)
    (given : Delivery)
    (handed : given ∈ (run (step cfg) (initial limit missingTtl nodes)
      (before ++ [action])).deliveries)
    (mine : given.user = user) (here : given.channel = channel) (peer : UserId)
    (tracked : (run (step cfg) (initial limit missingTtl nodes)
      (before ++ [action] ++ later)).sessions.userChannel peer = some channel) :
    (run (step cfg) (initial limit missingTtl nodes)
      (before ++ [action] ++ later)).lastKey peer channel ≠ some given.key := by
  obtain ⟨rest, rfl⟩ := reached
  have stages := (lands.and_forall answers).and_forall traffic
  obtain ⟨untilLater, -⟩ := staged_append.mp stages
  obtain ⟨untilGone, afterwards⟩ := staged_append.mp untilLater
  obtain ⟨untilBefore, now⟩ := staged_concat.mp untilGone
  have orderly : Orderly cfg (run (step cfg) (initial limit missingTtl nodes) before) :=
    untilBefore.invariant (Orderly cfg)
      (fun s action orderly allowed =>
        (step_secures rng allowed.1 allowed.2.1 allowed.2.2 orderly).orderly)
      (initial_orderly cfg limit missingTtl nodes)
  rw [run_append] at tracked ⊢
  rw [run_append] at gone handed afterwards tracked ⊢
  have removed := step_secures rng now.1 now.2.1 now.2.2 orderly
  have dead : (((run (step cfg) (initial limit missingTtl nodes) before).step cfg action).ledger cfg
      channel).Dead given.key :=
    removed.departed channel user was gone given.key ⟨given, handed, mine, here, rfl⟩
  -- From here on the key stays dead.
  have still := afterwards.invariant
    (fun s => Orderly cfg s ∧ (s.ledger cfg channel).Dead given.key)
    (fun s action kept allowed =>
      have secures := step_secures rng allowed.1 allowed.2.1 allowed.2.2 kept.1
      ⟨secures.orderly, (secures.steps channel).dead kept.2⟩)
    ⟨removed.orderly, dead⟩
  exact still.2.notLast peer tracked

end VoiceState

/-! ## The last member leaves while a token is in flight -/

namespace Emptied

open VoiceState Sample

/-- Bob is handed a new key when Ada leaves, and the key of her token is not his
last one, whoever joins afterwards. -/
theorem departed_keys_are_dead_together :
    (run (step cfg) start (together ++ [gone (env 4) ada lounge 1 "n"] ++
        [signIn eve, ask (env 20) eve lounge])).lastKey bob lounge ≠ some ⟨"k", 0⟩ := by
  have answers : ∀ seconds, (env seconds).Answers := env_answers
  refine departed_keys_are_dead cfg cfg_drawsKeys 0 30 nodes
    (together ++ [gone (env 4) ada lounge 1 "n"] ++ [signIn eve, ask (env 20) eve lounge])
    (by simp [together, adaAhead, signIn, ask, landed, gone, Action.isTraffic])
    (by simp [together, adaAhead, signIn, ask, landed, gone, Action.Finds, answers]) (by decide)
    together [signIn eve, ask (env 20) eve lounge] (gone (env 4) ada lounge 1 "n")
    (List.prefix_refl _) ada lounge (by decide) (by decide)
    ⟨ada, lounge, ⟨"k", 0⟩, [connOf ada], true⟩ (by decide) rfl rfl bob (by decide)

/-- Ada alone in the lounge, and a token for Bob that carries the rotated key. -/
def inFlight : List Action := adaAhead ++ [ask (env 2) bob lounge]

/-- **A token outlives the key it carries.**  Bob's join rotates the key, Ada is told
and leaves, the channel is empty and its key is cleared; Bob lands, there is no
key to hand him, and he talks under the one Ada has. -/
theorem token_outlives_cleared_key :
    ¬ ∀ (actions before later : List Action) (action : Action) (user : UserId)
        (channel : ChannelId) (given : Delivery) (peer : UserId),
      (∀ action ∈ actions, action.isTraffic = true) →
      (∀ action ∈ actions, action.Finds Env.Answers) →
      before ++ [action] ++ later <+: actions →
      (∀ env request, .voiceJoin env request ∉ later) →
      (run (step cfg) start before).sessions.userChannel user = some channel →
      (run (step cfg) start (before ++ [action])).sessions.userChannel user ≠ some channel →
      given ∈ (run (step cfg) start (before ++ [action])).deliveries →
      given.user = user → given.channel = channel →
      (run (step cfg) start (before ++ [action] ++ later)).sessions.userChannel peer = some channel →
      (run (step cfg) start (before ++ [action] ++ later)).lastKey peer channel ≠ some given.key := by
  intro always
  have answers : ∀ seconds, (env seconds).Answers := env_answers
  have differs := always _ inFlight [landed (env 5) bob lounge 2 "nnn"] (gone (env 4) ada lounge 1 "n")
    ada lounge ⟨ada, lounge, ⟨"kk", 1⟩, [connOf ada], false⟩ bob
    (by simp [inFlight, adaAhead, signIn, ask, landed, gone, Action.isTraffic])
    (by simp [inFlight, adaAhead, signIn, ask, landed, gone, Action.Finds, answers])
    (List.prefix_refl _) (by simp [landed]) (by decide) (by decide) (by decide) rfl rfl (by decide)
  exact differs (by decide)

end Emptied

end Kergit
