import Kergit.SeatOwnership

/-!
What reconcile trusts, and what the join handler admits.

Reconcile meets participants in LiveKit that it does not track.  It trusts one by
its own rule — the pending intent, or else a live session of the user — makes up
a join event and hands it to the join handler, which decides again, by another
rule: the pending intent only.  The two agree where the trust rests on the intent
(`adopts_iff_intentHeld`), and only there.
-/

namespace Kergit

open Lib

/-- The participant LiveKit is asked to remove. -/
def Effect.removal? : Effect → Option (ChannelId × UserId)
  | .removeParticipant channel user => some (channel, user)
  | _ => none

/-- The intent is for the event's channel, session and nonce. -/
def PendingJoinIntent.matchesJoin (intent : PendingJoinIntent) (event : LiveKitEvent) : Bool :=
  decide (event.channelId = intent.toChannel ∧ event.appSessionId = intent.sessionId ∧
    intent.intentNonce ≠ "" ∧ event.intentNonce = intent.intentNonce)

namespace VoiceState

variable {cfg : Config} {env : Env} {userEnv : UserId → Env} {s s' t : VoiceState}
  {event : LiveKitEvent} {intent : PendingJoinIntent} {channel : ChannelId} {user v : UserId}
  {reason host : String} {remote : Map UserId ParticipantMetadata} {effects : List Effect}

/-- The removals asked of LiveKit so far, newest first. -/
def removals (s : VoiceState) : List (ChannelId × UserId) := s.journal.filterMap Effect.removal?

/-! ## A join that is applied kicks nobody -/

theorem removals_emitAll (harmless : ∀ effect ∈ effects, effect.removal? = none) :
    (s.emitAll effects).removals = s.removals := by
  have none : effects.filterMap Effect.removal? = [] := List.filterMap_eq_nil_iff.mpr harmless
  simp [removals, emitAll, none]

theorem selfStatus_harmless :
    ∀ effect ∈ s.selfStatus env user connected owner place, effect.removal? = none := by
  intro effect listed
  simp only [selfStatus, List.mem_flatMap] at listed
  obtain ⟨sessionId, -, sent⟩ := listed
  split at sent
  · cases sent
  · split at sent <;> rw [List.mem_singleton.mp sent] <;> rfl

theorem voiceKeyUpdateToUser_harmless :
    ∀ effect ∈ s.voiceKeyUpdateToUser hub channel user key, effect.removal? = none := by
  unfold voiceKeyUpdateToUser
  split
  · simp
  · dsimp only
    split <;> simp [Effect.removal?]

theorem removals_announceJoin : (s.announceJoin env event first).removals = s.removals := by
  refine removals_emitAll fun effect listed => ?_
  grind [voiceSnapshot, voiceParticipantUpsert, Effect.removal?]

theorem removals_resyncToUser : (s.resyncToUser env user).removals = s.removals := by
  refine removals_emitAll fun effect listed => ?_
  split at listed
  · nomatch listed
  · split at listed
    · exact voiceKeyUpdateToUser_harmless effect listed
    · nomatch listed

theorem removals_applyJoin : (s.applyJoin cfg env event intent).removals = s.removals :=
  removals_resyncToUser.trans
    (((removals_emitAll selfStatus_harmless).trans (removals_announceJoin.trans rfl)).trans rfl)

/-! ## Which joins reconcile makes up -/

/-- After a join everybody is where they were, but its user may be in its channel. -/
theorem joined_place (cfg : Config) (env : Env) (s : VoiceState) (event : LiveKitEvent) (v : UserId) :
    (s.handleParticipantJoined cfg env event).sessions.voiceState v = s.sessions.voiceState v ∨
      (v = event.userId ∧ (s.handleParticipantJoined cfg env event).sessions.userChannel v =
        some event.channelId) := by
  cases correlated : s.correlatedIntent env event with
  | none => exact .inl (by rw [(handleParticipantJoined_rejected correlated).sessions])
  | some intent =>
    have sessions : (s.handleParticipantJoined cfg env event).sessions = (s.seat event intent).2 :=
      (handleParticipantJoined_admitted correlated).sessions
    rw [sessions, VoiceSessionManager.userChannel]
    grind

section

variable {seat : UserVoiceState}

theorem reconcileLocal_seats
    (seated : (s.reconcileLocal cfg channel userEnv remote participant).sessions.voiceState v =
      some seat) :
    s.sessions.voiceState v = some seat := by
  simp only [reconcileLocal] at seated
  split at seated
  · exact seated
  · split at seated
    · exact seated
    · split at seated
      · have kept := forced_seats seated
        exact kept
      · exact seated

theorem reconcileRemote_seats (other : v ≠ entry.1)
    (seated : (s.reconcileRemote cfg env channel userEnv host localUsers entry).sessions.voiceState
      v = some seat) :
    s.sessions.voiceState v = some seat := by
  simp only [reconcileRemote] at seated
  split at seated
  · exact seated
  · split at seated
    · rcases joined_place cfg (userEnv entry.1) (s.onReconciler _)
          (syntheticJoin env channel entry.1 entry.2) v with same | ⟨mine, -⟩
      · exact same.symm.trans seated
      · exact absurd mine other
    · split at seated <;> exact seated

theorem local_run_seats
    (seated : (run (fun s participant => s.reconcileLocal cfg channel userEnv remote participant) s
      tracked).sessions.voiceState v = some seat) :
    s.sessions.voiceState v = some seat := by
  induction tracked generalizing s with
  | nil => exact seated
  | cons participant rest ih => exact reconcileLocal_seats (ih seated)

theorem remote_run_seats (others : ∀ entry ∈ entries, v ≠ entry.1)
    (seated : (run (fun s entry => s.reconcileRemote cfg env channel userEnv host localUsers entry) s
      entries).sessions.voiceState v = some seat) :
    s.sessions.voiceState v = some seat := by
  induction entries generalizing s with
  | nil => exact seated
  | cons entry rest ih =>
    have kept := ih (fun entry later => others entry (List.mem_cons_of_mem _ later)) seated
    exact reconcileRemote_seats (others entry List.mem_cons_self) kept

end

/-- In a map's entries, the ones before an entry are about other keys. -/
theorem distinct_of_nodupKeys (nodup : (before ++ entry :: after).NodupKeys) :
    ∀ earlier ∈ before, entry.1 ≠ earlier.1 := by
  intro earlier listed same
  rw [List.NodupKeys, List.keys, List.map_append, List.nodup_append] at nodup
  exact nodup.2.2 _ (List.mem_map_of_mem listed) _ (List.mem_map_of_mem List.mem_cons_self) same.symm

/-- **The joins reconcile makes up.**  Each is for a participant that reconcile trusts
and that is not tracked in the channel when the handler gets to see it. -/
theorem reconcileMoves_joined
    (fed : (t, Move.joined joins event) ∈ s.reconcileMoves cfg env channel userEnv reason) :
    ∃ user metadata, event = syntheticJoin env channel user metadata ∧
      t.correlationValid env channel user metadata = true ∧
      t.sessions.userChannel user ≠ some channel ∧
      ∃ host participants, s.poll env channel = some (host, participants) ∧
        user ∈ remoteByUser participants := by
  unfold reconcileMoves at fed
  split at fed
  · cases fed
  · rename_i host participants answered
    dsimp only at fed
    split at fed
    · simp only [absentMoves] at fed
      split at fed
      · cases fed
      · split at fed
        · cases List.mem_singleton.mp fed
        · cases fed
    · simp only [presentMoves, List.mem_append, List.mem_flatMap] at fed
      rcases fed with ⟨stage, -, fed⟩ | ⟨stage, listed, fed⟩
      · simp only [localMoves] at fed
        split at fed
        · cases fed
        · split at fed
          · cases List.mem_singleton.mp fed
          · cases fed
      · simp only [remoteMoves] at fed
        split at fed
        · rename_i trusted
          obtain ⟨untracked, valid⟩ := trusted
          simp at fed
          obtain ⟨rfl, -, rfl⟩ := fed
          obtain ⟨before, after, entries, found⟩ := mem_stages listed
          have present : stage.2.1 ∈ remoteByUser participants := by
            rw [AList.mem_keys, AList.keys, entries]
            exact List.mem_map_of_mem (List.mem_append_right _ List.mem_cons_self)
          refine ⟨_, _, rfl, valid, ?_, host, participants, answered, present⟩
          intro here
          obtain ⟨owner, seated⟩ := VoiceSessionManager.userChannel_eq_some.mp here
          rw [found] at seated
          -- No earlier entry is about the same user, and the tracked ones only lose seats.
          have started := remote_run_seats (distinct_of_nodupKeys (entries ▸ AList.nodupKeys _)) seated
          have tracked := local_run_seats started
          refine untracked (List.mem_map.mpr ?_)
          exact VoiceSessionManager.mem_participantsInChannel.mpr
            (VoiceSessionManager.userChannel_eq_some.mpr ⟨owner, tracked⟩)
        · cases fed

/-! ## The two rules compared -/

/-- An event with a session id is admitted under the pending intent it matches, and
under nothing else. -/
theorem correlatedIntent_named (named : event.appSessionId ≠ 0) :
    s.correlatedIntent env event =
      (s.pendingIntents.read env.redis event.userId).filter (·.matchesJoin event) := by
  unfold correlatedIntent
  cases found : s.pendingIntents.read env.redis event.userId with
  | none => simp [named]
  | some intent =>
    have presented : event.appSessionId ≠ 0 ∨ event.intentNonce ≠ "" := .inl named
    simp [PendingJoinIntent.matchesJoin]
    grind

/-- The handler, when it looks, finds the pending intent the event matches. -/
def intentHeld (s : VoiceState) : Move → Bool
  | .joined env event =>
    (s.pendingIntents.read env.redis event.userId).any (·.matchesJoin event)
  | .left .. | .forced .. | .finished .. => true

/-- A join ends with its user tracked in its channel, and no removal is asked for. -/
def Adopts (cfg : Config) (s : VoiceState) : Move → Prop
  | .joined env event =>
    (s.handleParticipantJoined cfg env event).sessions.userChannel event.userId =
        some event.channelId ∧
      (s.handleParticipantJoined cfg env event).removals = s.removals
  | .left .. | .forced .. | .finished .. => True

instance (cfg : Config) (s : VoiceState) (m : Move) : Decidable (s.Adopts cfg m) := by
  cases m <;> unfold Adopts <;> infer_instance

theorem adopts_of_correlated (correlated : s.correlatedIntent env event = some intent) :
    s.Adopts cfg (.joined env event) := by
  constructor
  · have sessions : (s.handleParticipantJoined cfg env event).sessions = (s.seat event intent).2 :=
      (handleParticipantJoined_admitted correlated).sessions
    rw [sessions]
    exact VoiceSessionManager.userChannel_eq_some.mpr
      ⟨intent.sessionId, voiceState_seat.trans (if_pos rfl)⟩
  · have removals : ((s.heard event).applyJoin cfg env event intent).removals = s.removals :=
      removals_applyJoin
    rw [handleParticipantJoined_eq correlated]
    exact removals

/-- **Reconcile adopts whom it trusts, if the trust rests on a pending intent.**  Take
any join event that reconcile, in any state, makes up for a participant it does
not track but trusts.  The handler ends with that user tracked, and asks for no
removal, exactly when it finds the pending intent the event matches. -/
theorem adopts_iff_intentHeld (cfg : Config) (env : Env) (userEnv : UserId → Env)
    (channel : ChannelId) (reason : String) (s : VoiceState) :
    ∀ found ∈ s.reconcileMoves cfg env channel userEnv reason,
      found.1.Adopts cfg found.2 ↔ found.1.intentHeld found.2 = true := by
  rintro ⟨t, m⟩ fed
  cases m with
  | left | forced | finished => exact ⟨fun _ => rfl, fun _ => trivial⟩
  | joined e event =>
    obtain ⟨user, metadata, rfl, valid, untracked, -⟩ := reconcileMoves_joined fed
    have named : t.correlatedIntent e (syntheticJoin env channel user metadata) = _ :=
      correlatedIntent_named (by unfold correlationValid at valid; grind [syntheticJoin])
    cases correlated : t.correlatedIntent e (syntheticJoin env channel user metadata) with
    | some intent =>
      rw [correlated] at named
      obtain ⟨found, matches'⟩ := Option.filter_eq_some_iff.mp named.symm
      refine ⟨fun _ => ?_, fun _ => adopts_of_correlated correlated⟩
      change Option.any _ (t.pendingIntents.read _ _) = true
      rw [found]
      exact matches'
    | none =>
      have quiet : Quiet t (t.handleParticipantJoined cfg e _) :=
        handleParticipantJoined_rejected correlated
      refine ⟨fun adopted => ?_, fun held => ?_⟩
      · have here := adopted.1
        rw [quiet.sessions] at here
        exact absurd here untracked
      · rw [correlated] at named
        change Option.any _ (t.pendingIntents.read _ _) = true at held
        cases found : t.pendingIntents.read e.redis (syntheticJoin env channel user metadata).userId with
        | none =>
          rw [found] at held
          cases held
        | some intent =>
          rw [found] at held named
          have fits : intent.matchesJoin (syntheticJoin env channel user metadata) = true := held
          rw [Option.filter, if_pos fits] at named
          cases named

end VoiceState

/-! ## LiveKit lists Ada, the service does not track her -/

namespace Untracked

open VoiceState Sample

/-- LiveKit lists Ada in every room, with the metadata of her first token. -/
def listing (seconds : Nat) : Env :=
  { env seconds with
    listParticipants := fun _ _ =>
      some [{ identity := ada, metadata := { appSessionId := 1, intentNonce := "n" } }] }

/-- Ada has a token, and the webhook of her landing was lost. -/
def unheard : VoiceState := run (step cfg) start [signIn ada, ask (env 0) ada lounge]

/-- The pending intent is there, so the one join reconcile makes up is applied. -/
theorem adopts_iff_intentHeld_unheard :
    (unheard.reconcileMoves cfg (listing 3) lounge (fun _ => listing 3) "periodic").length = 1 ∧
      ∀ found ∈ unheard.reconcileMoves cfg (listing 3) lounge (fun _ => listing 3) "periodic",
        found.1.Adopts cfg found.2 := by
  refine ⟨by decide, fun found fed => ?_⟩
  have held : ∀ found ∈ unheard.reconcileMoves cfg (listing 3) lounge (fun _ => listing 3) "periodic",
      found.1.intentHeld found.2 = true := by decide
  exact (adopts_iff_intentHeld cfg (listing 3) (fun _ => listing 3) lounge "periodic" unheard found
    fed).mpr (held found fed)

/-- Ada landed, which used up the intent, and a leave was heard while she reconnected
to LiveKit; her session is alive throughout. -/
def dropped : VoiceState :=
  run (step cfg) start (adaIn ++ [gone (env 2) ada lounge 1 "n"])

/-- **A participant trusted for a live session is kicked.**  Reconcile finds Ada in
LiveKit, trusts her because the session in her metadata is alive, and feeds a join
to a handler that wants a pending intent: she is not tracked, and her removal is
asked for. -/
theorem trusted_session_is_kicked :
    ¬ ∀ found ∈ dropped.reconcileMoves cfg (listing 3) lounge (fun _ => listing 3) "periodic",
      found.1.Adopts cfg found.2 := by
  decide

example :
    (dropped.step cfg (.reconcile (listing 3) (fun _ => listing 3) lounge "periodic")).removals =
      [(lounge, ada)] := by decide

end Untracked

end Kergit
