import Kergit.SeatOwnership

/-!
The nonces of join tokens, in the order they are drawn.

`VOICE_JOIN` draws a nonce for the token and for the intent it stores; LiveKit's
events bring it back.  No other step stores an intent, and a join that names a
nonce is admitted only against the stored intent with that nonce.  `Continues` is
that, for every move, and `Stages` is what `VOICE_JOIN` adds.
`Numbered` follows for every run: a user's stored intent is at least as new as
every join of the user on record.
-/

namespace Kergit

open Lib

/-- Nonces are 32 hexadecimal digits, and none is drawn twice. -/
structure Config.DrawsNonces (cfg : Config) : Prop where
  distinct : Function.Injective cfg.generateNonceHex
  named : ∀ n, cfg.generateNonceHex n ≠ ""

namespace VoiceState

variable {cfg : Config} {env : Env} {s s' t : VoiceState} {event : LiveKitEvent}
  {intent : PendingJoinIntent}

/-- The stored intents and the joins on record are what they were. -/
structure Untouched (s s' : VoiceState) : Prop where
  pendingIntents : s'.pendingIntents = s.pendingIntents
  nonceDraws : s.nonceDraws ≤ s'.nonceDraws
  admissions : s'.admissions = s.admissions

theorem Untouched.trans (first : Untouched s t) (second : Untouched t s') : Untouched s s' where
  pendingIntents := second.pendingIntents.trans first.pendingIntents
  nonceDraws := Nat.le_trans first.nonceDraws second.nonceDraws
  admissions := second.admissions.trans first.admissions

theorem Quiet.untouched (quiet : Quiet s s') : Untouched s s' :=
  ⟨quiet.pendingIntents, quiet.nonceDraws, quiet.admissions⟩

theorem Steady.untouched (steady : Steady s s') : Untouched s s' :=
  ⟨steady.pendingIntents, steady.nonceDraws, steady.admissions⟩

/-- No intent is stored that was not stored before, and every join that names a nonce
is admitted against a stored intent with that nonce. -/
structure Continues (s s' : VoiceState) : Prop where
  intents : IntentsFrom s.pendingIntents s'.pendingIntents
  nonceDraws : s.nonceDraws ≤ s'.nonceDraws
  admissions : ∃ new, s'.admissions = new ++ s.admissions ∧ ∀ join ∈ new, join.nonce ≠ "" →
    ∃ entry, s.pendingIntents.lookup join.user = some entry ∧
      entry.value.intentNonce = join.nonce

/-- A step that applies no join. -/
theorem Continues.of_admissions (intents : IntentsFrom s.pendingIntents s'.pendingIntents)
    (nonceDraws : s.nonceDraws ≤ s'.nonceDraws) (admissions : s'.admissions = s.admissions) :
    Continues s s' :=
  ⟨intents, nonceDraws, [], admissions, nofun⟩

theorem Untouched.continues (untouched : Untouched s s') : Continues s s' :=
  .of_admissions (untouched.pendingIntents ▸ .refl _) untouched.nonceDraws untouched.admissions

/-- A join that names a nonce is admitted under the stored intent it fits. -/
theorem correlatedIntent_of_nonce (correlated : s.correlatedIntent env event = some intent)
    (named : event.intentNonce ≠ "") :
    s.pendingIntents.read env.redis event.userId = some intent ∧
      intent.toChannel = event.channelId ∧ intent.sessionId = event.appSessionId ∧
      intent.intentNonce = event.intentNonce := by
  unfold correlatedIntent at correlated
  grind

theorem joined_continues : Continues s (s.handleParticipantJoined cfg env event) := by
  cases correlated : s.correlatedIntent env event with
  | none => exact (handleParticipantJoined_rejected correlated).untouched.continues
  | some intent =>
    have admitted : Becomes s (s.handleParticipantJoined cfg env event) _ _ :=
      handleParticipantJoined_admitted correlated
    refine ⟨joined_inherits.intents, admitted.nonceDraws, _, admitted.admissions, ?_⟩
    intro join listed named
    obtain rfl := List.mem_singleton.mp listed
    obtain ⟨found, -, -, nonce⟩ := correlatedIntent_of_nonce correlated named
    obtain ⟨entry, stored, -, rfl⟩ := PendingJoinIntentStore.read_eq_some found
    exact ⟨entry, stored, PendingJoinIntentStore.ofDoc_intentNonce.symm.trans nonce⟩

theorem departure_continues (departs : ∀ env event, m ≠ .joined env event) :
    Continues s (s.move cfg m) :=
  .of_admissions (move_inherits m).intents (departure_becomes departs).nonceDraws
    (departure_becomes departs).admissions

theorem move_continues (m : Move) : Continues s (s.move cfg m) := by
  cases m with
  | joined env event => exact joined_continues
  | left | forced | finished => exact departure_continues (by simp)

/-- A `VOICE_JOIN` stores an intent for the user under the next nonce, unless Redis
loses it. -/
structure Stages (cfg : Config) (s s' : VoiceState) (user : UserId) (draw : Nat) : Prop where
  fresh : s.nonceDraws ≤ draw
  drawn : draw < s'.nonceDraws
  admissions : s'.admissions = s.admissions
  intents : ∀ v entry, s'.pendingIntents.lookup v = some entry →
    s.pendingIntents.lookup v = some entry ∨
      (v = user ∧ entry.value.intentNonce = cfg.generateNonceHex draw ∧
        entry.value.newJoinSeen = false ∧ entry.deadline ≠ none)

theorem voiceJoin_stages (cfg : Config) (env : Env) (s : VoiceState)
    (request : JoinVoiceChannelRequest) :
    Untouched s (s.voiceJoin cfg env request) ∨
      ∃ user draw, Stages cfg s (s.voiceJoin cfg env request) user draw := by
  rcases voiceJoin_cases cfg env s request with quiet | ⟨user, sid, start, -, quiet, outcome⟩
  · exact .inl quiet.untouched
  · rcases outcome with acquired | ⟨key, -, issued⟩
    · exact .inl (quiet.untouched.trans (acquiredKey_steady.untouched.trans acquired.untouched))
    · refine .inr ⟨user, start.nonceDraws, quiet.nonceDraws, ?_, issued.admissions, ?_⟩
      · exact Nat.lt_of_lt_of_le (Nat.lt_of_succ_le
          (acquireForJoin_rekeys (s := start.acquireStart _)).steady.nonceDraws) issued.nonceDraws
      · intro v entry stored
        rcases issued.lookup stored with kept | ⟨same, _, _, rfl⟩
        · exact .inl kept
        · exact .inr ⟨same, rfl, rfl, Option.some_ne_none _⟩

/-- **What a step does to the intents**: nothing, or it stages one, or it makes the
moves it is known for. -/
theorem step_cases (allowed : ∀ found ∈ s.movesOf cfg action, Guard found.1 found.2) :
    Untouched s (s.step cfg action) ∨ (∃ user draw, Stages cfg s (s.step cfg action) user draw) ∨
      Turns cfg Guard s (s.step cfg action) := by
  cases action with
  | authenticate env conn user resume =>
    left
    rcases authenticate_cases cfg env s conn user resume with quiet | ⟨-, _, _, opened⟩
    · exact quiet.untouched
    · exact ⟨opened.becomes.pendingIntents, opened.becomes.nonceDraws,
        opened.becomes.admissions⟩
  | disconnect conn =>
    left
    rcases disconnect_cases s conn with same | quiet
    · rw [step, same]
      exact (Quiet.refl s).untouched
    · exact ⟨quiet.pendingIntents, quiet.nonceDraws, quiet.admissions⟩
  | voiceJoin env request => exact (voiceJoin_stages cfg env s request).imp_right .inl
  | webhook env event => exact .inr (.inr (webhook_turns allowed))
  | reconcile env userEnv channel reason => exact .inr (.inr (reconcile_turns allowed))
  | restart env =>
    have silent : Silent s.restart (s.step cfg (.restart env)) := restart_silent cfg env s
    exact .inl ⟨silent.pendingIntents, silent.nonceDraws, silent.admissions⟩

/-! ## Order -/

/-- The nonces on record were drawn, and a user's stored intent is at least as new as
every join of the user. -/
structure Numbered (cfg : Config) (s : VoiceState) : Prop where
  admissions : ∀ join ∈ s.admissions, join.nonce ≠ "" →
    ∃ i < s.nonceDraws, join.nonce = cfg.generateNonceHex i
  intents : ∀ user entry, s.pendingIntents.lookup user = some entry →
    ∃ k < s.nonceDraws, entry.value.intentNonce = cfg.generateNonceHex k ∧
      ∀ join ∈ s.admissions, join.user = user → join.nonce ≠ "" →
        ∃ i ≤ k, join.nonce = cfg.generateNonceHex i

theorem Continues.numbered (continues : Continues s s') (numbered : Numbered cfg s) :
    Numbered cfg s' := by
  obtain ⟨new, added, matched⟩ := continues.admissions
  constructor
  · intro join listed named
    rw [added] at listed
    rcases List.mem_append.mp listed with new | old
    · obtain ⟨entry, stored, nonce⟩ := matched join new named
      obtain ⟨k, drawn, is, -⟩ := numbered.intents _ entry stored
      exact ⟨k, Nat.lt_of_lt_of_le drawn continues.nonceDraws, nonce.symm.trans is⟩
    · obtain ⟨i, drawn, is⟩ := numbered.admissions join old named
      exact ⟨i, Nat.lt_of_lt_of_le drawn continues.nonceDraws, is⟩
  · intro user entry' stored'
    obtain ⟨entry, stored, same⟩ := continues.intents user entry' stored'
    obtain ⟨k, drawn, is, newest⟩ := numbered.intents user entry stored
    refine ⟨k, Nat.lt_of_lt_of_le drawn continues.nonceDraws, same.intentNonce.trans is, ?_⟩
    intro join listed mine named
    rw [added] at listed
    rcases List.mem_append.mp listed with new | old
    · obtain ⟨origin, stored'', nonce⟩ := matched join new named
      obtain rfl : origin = entry := Option.some.inj (stored''.symm.trans (mine ▸ stored))
      exact ⟨k, Nat.le_refl k, nonce.symm.trans is⟩
    · exact newest join old mine named

theorem Stages.numbered (stages : Stages cfg s s' user draw)
    (numbered : Numbered cfg s) : Numbered cfg s' := by
  have later : s.nonceDraws ≤ s'.nonceDraws :=
    Nat.le_of_lt (Nat.lt_of_le_of_lt stages.fresh stages.drawn)
  constructor
  · intro join listed named
    rw [stages.admissions] at listed
    obtain ⟨i, drawn, is⟩ := numbered.admissions join listed named
    exact ⟨i, Nat.lt_of_lt_of_le drawn later, is⟩
  · intro v entry stored
    rw [stages.admissions]
    rcases stages.intents v entry stored with before | ⟨-, nonce, -, -⟩
    · obtain ⟨k, drawn, is, newest⟩ := numbered.intents v entry before
      exact ⟨k, Nat.lt_of_lt_of_le drawn later, is, newest⟩
    · refine ⟨draw, stages.drawn, nonce, fun join listed _ named => ?_⟩
      obtain ⟨i, drawn, is⟩ := numbered.admissions join listed named
      exact ⟨i, Nat.le_trans (Nat.le_of_lt drawn) stages.fresh, is⟩

theorem step_numbered (numbered : Numbered cfg s) : Numbered cfg (s.step cfg action) := by
  have cases : Untouched s (s.step cfg action) ∨ _ ∨ Turns cfg (fun _ _ => True) s _ :=
    step_cases fun _ _ => trivial
  rcases cases with untouched | ⟨user, draw, stages⟩ | turns
  · exact untouched.continues.numbered numbered
  · exact stages.numbered numbered
  · exact turns.invariant (Numbered cfg)
      (fun _ _ quiet numbered => quiet.untouched.continues.numbered numbered)
      (fun _ m _ numbered => (move_continues m).numbered numbered) numbered

theorem numbered_initial (limit missingTtl : Nat) (nodes : List LivekitNode) :
    Numbered cfg (initial limit missingTtl nodes) :=
  ⟨nofun, fun _ _ stored => absurd stored (by simp [initial])⟩

end VoiceState

theorem Sample.cfg_drawsNonces : Sample.cfg.DrawsNonces where
  distinct := fun n m same => by
    have := String.ofList_injective same
    simpa using this
  named := fun n empty => by
    have := congrArg String.toList empty
    simp [Sample.cfg, Sample.drawn] at this

end Kergit
