import Kergit.IntentNonces

/-!
How often one join token takes its user into a channel.

A landing uses the stored intent up: it is cleared, or, if the landing is the first
half of a switch, kept with `new_join_seen` until the leave of the old channel is
heard.  In between the handler admits the same token again, which does nothing as
long as the user is still there.  `ReusesToken` is the one case left, a user who is
not.  Without it, and with Redis taking what it is given, `SpentOnce` holds in every
run: no nonce has taken anyone anywhere twice, and an intent that has not been seen
landing has not been used at all.  `Traced` is where the nonces come from: requests
that were allowed.
-/

namespace Kergit

open Lib

/-- An intent that has not been seen landing had not been before either. -/
theorem SameJoin.unseen (same : SameJoin doc doc')
    (unseen : doc'.newJoinSeen = false) : doc.newJoinSeen = false := by
  by_contra seen
  rw [Bool.not_eq_false] at seen
  rw [same.newJoinSeen seen] at unseen
  nomatch unseen

namespace PendingJoinIntentStore

variable {env : Env} {store : PendingJoinIntentStore} {user : UserId} {intent : PendingJoinIntent}
  {entry : Entry PendingJoinIntent}

/-- A landing leaves no unused intent behind. -/
theorem settleJoin_seen (up : env.redis.Up)
    (timed : ∀ entry, store.lookup user = some entry → entry.deadline ≠ none)
    (found : store.read env.redis user = some intent)
    (stored : (VoiceState.settleJoin env store user intent).lookup user = some entry) :
    entry.value.newJoinSeen = true := by
  unfold VoiceState.settleJoin at stored
  split at stored
  · obtain ⟨old, kept, alive, -⟩ := read_eq_some found
    obtain ⟨deadline, expires⟩ := Option.ne_none_iff_exists'.mp (timed old kept)
    have early : env.redis.now < deadline := by
      simpa [Entry.alive, expires] using alive
    have left : env.redis.ttl pendingJoinKey store user = some (deadline - env.redis.now) := by
      rw [Link.ttl_up up, Store.lifetime, kept]
      simp [expires, early]
    rw [update, left] at stored
    dsimp only at stored
    rw [if_neg (Nat.sub_ne_zero_of_lt early), Link.setex_up up, Store.put, Map.lookup_insert_if,
      if_pos rfl] at stored
    obtain rfl := Option.some.inj stored
    rfl
  · rw [clear, Link.del_up up, Map.lookup_erase_if, if_pos rfl] at stored
    cases stored

end PendingJoinIntentStore

namespace VoiceState

variable {cfg : Config} {env : Env} {s s' t : VoiceState} {event : LiveKitEvent}
  {intent : PendingJoinIntent} {user : UserId} {nonce : String}

/-- The joins that named the nonce and took their user into a channel. -/
def entriesWith (s : VoiceState) (nonce : String) : List Admission :=
  s.admissions.filter fun join => join.nonce = nonce ∧ join.before ≠ some join.channel

/-- A join fits an intent whose landing was seen already, and its user is not in the
channel. -/
def ReusesToken (env : Env) (s : VoiceState) (event : LiveKitEvent) : Prop :=
  s.sessions.userChannel event.userId ≠ some event.channelId ∧
    ∃ intent ∈ s.pendingIntents.read env.redis event.userId,
      intent.newJoinSeen = true ∧ intent.toChannel = event.channelId ∧
      intent.sessionId = event.appSessionId ∧ intent.intentNonce = event.intentNonce
deriving Decidable

/-- The move is not a join that reuses a token. -/
def FreshLanding (s : VoiceState) : Move → Prop
  | .joined env event => ¬ ReusesToken env s event
  | .left .. | .forced .. | .finished .. => True

instance : (m : Move) → Decidable (s.FreshLanding m)
  | .joined .. | .left .. | .forced .. | .finished .. => by
    unfold FreshLanding
    infer_instance

/-- The stored intents expire, and no two users' have one nonce. -/
structure Filed (cfg : Config) (s : VoiceState) : Prop where
  numbered : Numbered cfg s
  timed : ∀ user entry, s.pendingIntents.lookup user = some entry → entry.deadline ≠ none
  apart : ∀ u v entry entry', s.pendingIntents.lookup u = some entry →
    s.pendingIntents.lookup v = some entry' →
    entry.value.intentNonce = entry'.value.intentNonce → u = v

/-- What single use comes down to. -/
structure SpentOnce (cfg : Config) (s : VoiceState) : Prop extends Filed cfg s where
  once : ∀ nonce, nonce ≠ "" → (s.entriesWith nonce).length ≤ 1
  unused : ∀ user entry, s.pendingIntents.lookup user = some entry →
    entry.value.newJoinSeen = false → s.entriesWith entry.value.intentNonce = []

theorem Continues.filed (continues : Continues s s') (filed : Filed cfg s) : Filed cfg s' where
  numbered := continues.numbered filed.numbered
  timed := by
    intro user entry' stored'
    obtain ⟨entry, stored, kept⟩ := continues.intents user entry' stored'
    exact kept.timed (filed.timed user entry stored)
  apart := by
    intro u v entry entry' stored stored' equal
    obtain ⟨origin, before, kept⟩ := continues.intents u entry stored
    obtain ⟨origin', before', kept'⟩ := continues.intents v entry' stored'
    rw [kept.intentNonce, kept'.intentNonce] at equal
    exact filed.apart u v origin origin' before before' equal

theorem Stages.filed (draws : cfg.DrawsNonces) (stages : Stages cfg s s' user draw)
    (filed : Filed cfg s) : Filed cfg s' where
  numbered := stages.numbered filed.numbered
  timed := by
    intro v entry stored
    rcases stages.intents v entry stored with before | ⟨-, -, -, timed⟩
    · exact filed.timed v entry before
    · exact timed
  apart := by
    -- The staged nonce is none of the older ones.
    have newer : ∀ v entry, s.pendingIntents.lookup v = some entry →
        entry.value.intentNonce ≠ cfg.generateNonceHex draw := by
      intro v entry stored same
      obtain ⟨k, drawn, is, -⟩ := filed.numbered.intents v entry stored
      have : k = draw := draws.distinct (is.symm.trans same)
      have := stages.fresh
      omega
    intro u v entry entry' stored stored' equal
    rcases stages.intents u entry stored with before | ⟨rfl, nonce, -, -⟩
    · rcases stages.intents v entry' stored' with before' | ⟨rfl, nonce', -, -⟩
      · exact filed.apart u v entry entry' before before' equal
      · exact absurd (equal.trans nonce') (newer u entry before)
    · rcases stages.intents v entry' stored' with before' | ⟨rfl, -, -, -⟩
      · exact absurd (equal.symm.trans nonce) (newer v entry' before')
      · rfl

theorem Numbered.named (draws : cfg.DrawsNonces) (numbered : Numbered cfg s)
    (stored : s.pendingIntents.lookup user = some entry) : entry.value.intentNonce ≠ "" := by
  obtain ⟨k, -, is, -⟩ := numbered.intents user entry stored
  rw [is]
  exact draws.named k

/-- A nonce that is still to be drawn has taken nobody anywhere. -/
theorem Numbered.entriesWith_fresh (draws : cfg.DrawsNonces) (numbered : Numbered cfg s)
    (fresh : s.nonceDraws ≤ draw) : s.entriesWith (cfg.generateNonceHex draw) = [] := by
  rw [entriesWith, List.filter_eq_nil_iff]
  intro join listed matched
  obtain ⟨is, -⟩ := of_decide_eq_true matched
  obtain ⟨i, drawn, nonce⟩ := numbered.admissions join listed (is ▸ draws.named draw)
  have same : draw = i := draws.distinct (is.symm.trans nonce)
  omega

section

variable (draws : cfg.DrawsNonces)

include draws

/-- A step that takes nobody into a channel under a nonce. -/
theorem Continues.spentOnce (continues : Continues s s')
    (same : ∀ nonce, nonce ≠ "" → s'.entriesWith nonce = s.entriesWith nonce)
    (spent : SpentOnce cfg s) : SpentOnce cfg s' where
  toFiled := continues.filed spent.toFiled
  once := by
    intro nonce named
    rw [same nonce named]
    exact spent.once nonce named
  unused := by
    intro user entry' stored' unseen
    obtain ⟨entry, stored, kept⟩ := continues.intents user entry' stored'
    rw [kept.intentNonce, same _ (spent.numbered.named draws stored)]
    exact spent.unused user entry stored (kept.unseen unseen)

theorem Continues.spentOnce_of_admissions (continues : Continues s s')
    (same : s'.admissions = s.admissions) (spent : SpentOnce cfg s) : SpentOnce cfg s' :=
  continues.spentOnce draws (fun nonce _ => by rw [entriesWith, entriesWith, same]) spent

theorem Stages.spentOnce (stages : Stages cfg s s' user draw)
    (spent : SpentOnce cfg s) : SpentOnce cfg s' where
  toFiled := stages.filed draws spent.toFiled
  once := by
    intro nonce named
    rw [entriesWith, stages.admissions]
    exact spent.once nonce named
  unused := by
    intro v entry stored unseen
    rw [entriesWith, stages.admissions]
    rcases stages.intents v entry stored with before | ⟨-, nonce, -, -⟩
    · exact spent.unused v entry before unseen
    · rw [nonce]
      exact spent.numbered.entriesWith_fresh draws stages.fresh

end

theorem entriesWith_joined (correlated : s.correlatedIntent env event = some intent)
    (nonce : String) :
    (s.handleParticipantJoined cfg env event).entriesWith nonce =
      if event.intentNonce = nonce ∧ s.sessions.userChannel event.userId ≠ some event.channelId then
        s.admissionOf event :: s.entriesWith nonce
      else s.entriesWith nonce := by
  have admitted : Becomes s (s.handleParticipantJoined cfg env event) _ [s.admissionOf event] :=
    handleParticipantJoined_admitted correlated
  rw [entriesWith, admitted.admissions]
  split
  · rename_i enters
    exact List.filter_cons_of_pos (decide_eq_true enters)
  · rename_i stays
    exact List.filter_cons_of_neg fun enters => stays (of_decide_eq_true enters)

theorem joined_pendingIntents (correlated : s.correlatedIntent env event = some intent)
    (found : s.pendingIntents.read env.redis event.userId = some intent) :
    (s.handleParticipantJoined cfg env event).pendingIntents =
      settleJoin env s.pendingIntents event.userId intent := by
  have pending : (s.handleParticipantJoined cfg env event).pendingIntents =
      (rosterAfterJoin env s event intent).pendingIntents :=
    (handleParticipantJoined_admitted correlated).pendingIntents
  rw [pending, rosterAfterJoin, found]
  rfl

/-- The landing of a token: its nonce takes its user into the channel for the first
time, and the intent is cleared or marked. -/
theorem lands_spentOnce (up : env.redis.Up) (fresh : ¬ ReusesToken env s event)
    (spent : SpentOnce cfg s) (correlated : s.correlatedIntent env event = some intent)
    (named : event.intentNonce ≠ "")
    (away : s.sessions.userChannel event.userId ≠ some event.channelId) :
    SpentOnce cfg (s.handleParticipantJoined cfg env event) := by
  have continues : Continues s (s.handleParticipantJoined cfg env event) := joined_continues
  have entries : ∀ nonce, (s.handleParticipantJoined cfg env event).entriesWith nonce = _ :=
    entriesWith_joined correlated
  obtain ⟨found, fits⟩ := correlatedIntent_of_nonce correlated named
  have pending : (s.handleParticipantJoined cfg env event).pendingIntents = _ :=
    joined_pendingIntents correlated found
  obtain ⟨entry, stored, -, rfl⟩ := PendingJoinIntentStore.read_eq_some found
  have nonce : entry.value.intentNonce = event.intentNonce :=
    PendingJoinIntentStore.ofDoc_intentNonce.symm.trans fits.2.2
  -- The intent was not seen landing, so its nonce is unused.
  have unseen : entry.value.newJoinSeen = false := by
    by_contra seen
    rw [Bool.not_eq_false] at seen
    exact fresh ⟨away, _, found, PendingJoinIntentStore.ofDoc_newJoinSeen.trans seen, fits⟩
  have unused : s.entriesWith event.intentNonce = [] :=
    nonce ▸ spent.unused event.userId entry stored unseen
  refine ⟨continues.filed spent.toFiled, ?_, ?_⟩
  · intro other named'
    rw [entries other]
    split
    · rename_i enters
      rw [← enters.1, unused]
      exact Nat.le_refl 1
    · exact spent.once other named'
  · intro user entry' stored' unseen'
    by_cases same : user = event.userId
    · subst same
      rw [pending] at stored'
      have seen := PendingJoinIntentStore.settleJoin_seen up (spent.timed _) found stored'
      rw [unseen'] at seen
      nomatch seen
    · obtain ⟨origin, before, kept⟩ := continues.intents user entry' stored'
      rw [kept.intentNonce, entries, if_neg]
      · exact spent.unused user origin before (kept.unseen unseen')
      · rintro ⟨clash, -⟩
        exact same (spent.apart user event.userId origin entry before stored
          (clash.symm.trans nonce.symm))

theorem joined_spentOnce (draws : cfg.DrawsNonces) (up : env.redis.Up)
    (fresh : ¬ ReusesToken env s event) (spent : SpentOnce cfg s) :
    SpentOnce cfg (s.handleParticipantJoined cfg env event) := by
  have continues : Continues s (s.handleParticipantJoined cfg env event) := joined_continues
  cases correlated : s.correlatedIntent env event with
  | none =>
    exact continues.spentOnce_of_admissions draws
      (handleParticipantJoined_rejected correlated).admissions spent
  | some intent =>
    by_cases enters : event.intentNonce ≠ "" ∧
        s.sessions.userChannel event.userId ≠ some event.channelId
    · exact lands_spentOnce up fresh spent correlated enters.1 enters.2
    · refine continues.spentOnce draws (fun nonce named => ?_) spent
      rw [entriesWith_joined correlated, if_neg]
      rintro ⟨rfl, away⟩
      exact enters ⟨named, away⟩

theorem move_spentOnce (draws : cfg.DrawsNonces) (up : m.env.redis.Up)
    (fresh : s.FreshLanding m) (spent : SpentOnce cfg s) : SpentOnce cfg (s.move cfg m) := by
  cases m with
  | joined env event => exact joined_spentOnce draws up fresh spent
  | left | forced | finished =>
    exact (departure_continues (by simp)).spentOnce_of_admissions draws
      (departure_becomes (by simp)).admissions spent

/-- Every join an action applies is a fresh landing. -/
def LandsFresh (cfg : Config) (s : VoiceState) (action : Action) : Prop :=
  ∀ found ∈ s.movesOf cfg action, found.1.FreshLanding found.2
deriving Decidable

theorem step_spentOnce (draws : cfg.DrawsNonces)
    (up : action.Finds fun env => env.redis.Up) (fresh : s.LandsFresh cfg action)
    (spent : SpentOnce cfg s) : SpentOnce cfg (s.step cfg action) := by
  have cases : Untouched s (s.step cfg action) ∨ _ ∨
      Turns cfg (fun s m => m.env.redis.Up ∧ s.FreshLanding m) s _ :=
    step_cases fun found listed => ⟨movesOf_env up found listed, fresh found listed⟩
  rcases cases with untouched | ⟨user, draw, stages⟩ | turns
  · exact untouched.continues.spentOnce_of_admissions draws untouched.admissions spent
  · exact stages.spentOnce draws spent
  · exact turns.invariant (SpentOnce cfg)
      (fun _ _ quiet spent =>
        quiet.untouched.continues.spentOnce_of_admissions draws quiet.admissions spent)
      (fun _ m allowed spent => move_spentOnce draws allowed.1 allowed.2 spent) spent

theorem spentOnce_initial (limit missingTtl : Nat) (nodes : List LivekitNode) :
    SpentOnce cfg (initial limit missingTtl nodes) where
  numbered := numbered_initial limit missingTtl nodes
  timed := fun _ _ stored => absurd stored (by simp [initial])
  apart := fun _ _ _ _ stored => absurd stored (by simp [initial])
  once := fun _ _ => Nat.zero_le 1
  unused := fun _ _ stored => absurd stored (by simp [initial])

/-- The action is a `VOICE_JOIN` that may take the user to the channel, and draws the nonce. -/
def Asks (cfg : Config) (s : VoiceState) (action : Action) (user : UserId) (channel : ChannelId)
    (nonce : String) : Prop :=
  ∃ env request sessionId draw, action = .voiceJoin env request ∧ request.channel = channel ∧
    s.authorizeJoin env request = .ok (user, sessionId) ∧ s.nonceDraws ≤ draw ∧
    draw < (s.step cfg action).nonceDraws ∧ nonce = cfg.generateNonceHex draw

/-- Every stored intent was asked for, and every join with a nonce. -/
structure Traced (asked : UserId → ChannelId → String → Prop) (s : VoiceState) : Prop where
  intents : ∀ user entry, s.pendingIntents.lookup user = some entry →
    asked user entry.value.toChannel entry.value.intentNonce
  admissions : ∀ join ∈ s.admissions, join.nonce ≠ "" → asked join.user join.channel join.nonce

section

variable (traced : Traced asked s)

include traced

theorem Traced.untouched (untouched : Untouched s s') : Traced asked s' :=
  ⟨untouched.pendingIntents ▸ traced.intents, untouched.admissions ▸ traced.admissions⟩

theorem Traced.move (m : Move) : Traced asked (s.move cfg m) where
  intents := by
    intro user entry' stored'
    obtain ⟨entry, stored, kept⟩ := (move_inherits m).intents user entry' stored'
    rw [kept.toChannel, kept.intentNonce]
    exact traced.intents user entry stored
  admissions := by
    intro join listed named
    cases m with
    | joined env event =>
      cases correlated : s.correlatedIntent env event with
      | none =>
        rw [VoiceState.move, (handleParticipantJoined_rejected correlated).admissions] at listed
        exact traced.admissions join listed named
      | some intent =>
        rw [VoiceState.move, (handleParticipantJoined_admitted correlated).admissions] at listed
        rcases List.mem_cons.mp listed with rfl | old
        · -- The join names the nonce of the intent that is stored for its user.
          obtain ⟨found, channel, -, nonce⟩ := correlatedIntent_of_nonce correlated named
          obtain ⟨entry, stored, -, rfl⟩ := PendingJoinIntentStore.read_eq_some found
          have asked := traced.intents event.userId entry stored
          rwa [← PendingJoinIntentStore.ofDoc_toChannel, ← PendingJoinIntentStore.ofDoc_intentNonce,
            channel, nonce] at asked
        · exact traced.admissions join old named
    | left | forced | finished =>
      rw [(departure_becomes (by simp)).admissions] at listed
      exact traced.admissions join listed named

theorem voiceJoin_traced
    (grants : ∀ u c n, s.Asks cfg (.voiceJoin env request) u c n → asked u c n) :
    Traced asked (s.voiceJoin cfg env request) := by
  rcases voiceJoin_cases cfg env s request with
    quiet | ⟨user, sessionId, start, allowed, quiet, acquired | ⟨key, -, issued⟩⟩
  · exact traced.untouched quiet.untouched
  · exact traced.untouched
      (quiet.untouched.trans (acquiredKey_steady.untouched.trans acquired.untouched))
  · refine ⟨fun v entry stored => ?_, issued.admissions ▸ traced.admissions⟩
    rcases issued.lookup stored with kept | ⟨rfl, _, _, rfl⟩
    · exact traced.intents v entry kept
    · refine grants v _ _ ⟨env, request, sessionId, start.nonceDraws, rfl, rfl, allowed,
        quiet.nonceDraws, ?_, rfl⟩
      exact Nat.lt_of_lt_of_le (Nat.lt_of_succ_le
        (acquireForJoin_rekeys (s := start.acquireStart _)).steady.nonceDraws) issued.nonceDraws

theorem step_traced (grants : ∀ u c n, s.Asks cfg action u c n → asked u c n) :
    Traced asked (s.step cfg action) := by
  have reported (turns : Turns cfg (fun _ _ => True) s (s.step cfg action)) : Traced asked _ :=
    turns.invariant (Traced asked) (fun _ _ quiet traced => traced.untouched quiet.untouched)
      (fun _ m _ traced => traced.move m) traced
  cases action with
  | voiceJoin env request => exact voiceJoin_traced traced grants
  | webhook | reconcile => exact reported (step_turns rfl fun _ _ => trivial)
  | authenticate env conn user resume =>
    rcases authenticate_cases cfg env s conn user resume with quiet | ⟨-, _, _, opened⟩
    · exact traced.untouched quiet.untouched
    · exact traced.untouched ⟨opened.becomes.pendingIntents, opened.becomes.nonceDraws,
        opened.becomes.admissions⟩
  | disconnect conn =>
    rcases disconnect_cases s conn with same | quiet
    · rwa [step, same]
    · exact traced.untouched ⟨quiet.pendingIntents, quiet.nonceDraws, quiet.admissions⟩
  | restart env =>
    have silent : Silent s.restart (s.step cfg (.restart env)) := restart_silent cfg env s
    exact traced.untouched ⟨silent.pendingIntents, silent.nonceDraws, silent.admissions⟩

end

/-- **Nobody joins unasked.**  In every run, with restarts and Redis failures, each join admitted
with a nonce goes back to a `VOICE_JOIN` that was allowed to take its user to that channel and drew
the nonce.  So does every stored intent. -/
theorem joins_were_asked_for (cfg : Config) (limit missingTtl : Nat) (nodes : List LivekitNode)
    (actions : List Action) :
    Traced (fun user channel nonce => ∃ stage ∈ stages (step cfg) (initial limit missingTtl nodes)
        actions, stage.1.Asks cfg stage.2 user channel nonce)
      (run (step cfg) (initial limit missingTtl nodes) actions) := by
  refine (Staged.of_stages fun stage listed _ _ _ asks => ⟨stage, listed, asks⟩).invariant
    (Traced _) (fun _ _ traced grants => step_traced traced grants) ?_
  exact ⟨fun _ _ stored => absurd stored (by simp [initial]), nofun⟩

end VoiceState

/-! ## Ada switches to the studio and is shown out -/

namespace ShownOut

open VoiceState Sample

/-- Ada moves from the lounge to the studio, and `between` is heard before LiveKit
reports her leave from the studio and another landing with the same token. -/
def secondLanding (between : List Action) : List Action :=
  adaIn ++ [ask (env 2) ada studio, landed (env 3) ada studio 1 "nnn"] ++ between ++
    [gone (env 5) ada studio 1 "nnn", landed (env 6) ada studio 1 "nnn"]

end ShownOut

end Kergit
