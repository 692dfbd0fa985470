import Kergit.ReconcileEvidence

/-!
Reconcile never tears down healthy users.

A reconcile of a channel takes a user out of it in two ways: `force_local_leave`,
when a poll that lists somebody does not list the user, and `on_channel_finish`,
when a poll lists nobody.  Either needs an observation filed by an earlier poll, and
the observation is gone as soon as anything speaks against it.  So an observation
in the tables is a piece of history (`Since`): a poll that missed the user, and
since then no poll that failed, showed the user, or found the owner session alive,
and no join of the user heard.

- `Verdict`: what visiting some suspects files, and whom it takes out.
- `PassOutcome`: the same of a whole reconcile, with what its poll answers.
- `reconcile_spares_healthy_users`: the same over every run, with the history.
-/

namespace Kergit

open Lib

/-- No process is replaced and no seat is handed over to another session. -/
def Action.isSteady : Action → Bool
  | .authenticate _ _ _ resume => resume.isNone
  | .disconnect _ | .voiceJoin .. | .webhook .. | .reconcile .. => true
  | .restart _ => false

/-- When a suspect is looked at. -/
def Suspect.clock (env : Env) (userEnv : UserId → Env) : Suspect → Nat
  | .participant _ user => (userEnv user).steadyNow
  | .room _ => env.steadyNow

namespace VoiceState

open VoiceReconciler

variable {cfg : Config} {env : Env} {userEnv : UserId → Env} {s s' t : VoiceState}
  {event : LiveKitEvent} {channel c : ChannelId} {user u v : UserId} {reason host : String}
  {remote : Map UserId ParticipantMetadata} {seen : MissingObservation}
  {participants : List RemoteParticipant} {x : Suspect}

/-- A poll of the channel that succeeds and does not list the user. -/
def PolledWithout (env : Env) (s : VoiceState) (channel : ChannelId) (user : UserId) : Prop :=
  ∃ host participants, s.poll env channel = some (host, participants) ∧
    user ∉ remoteByUser participants

/-- A poll of the channel that succeeds and lists nobody. -/
def PolledEmpty (env : Env) (s : VoiceState) (channel : ChannelId) : Prop :=
  ∃ host, s.poll env channel = some (host, [])

/-- A poll that misses the suspect. -/
def Misses (env : Env) (s : VoiceState) : Suspect → Prop
  | .participant channel user => PolledWithout env s channel user
  | .room channel => PolledEmpty env s channel

/-- The user's owner session, if the user is tracked in the channel, has no connection. -/
def OwnerDead (s : VoiceState) (channel : ChannelId) (user : UserId) : Prop :=
  ∀ owner, s.sessions.voiceState user = some ⟨channel, owner⟩ →
    s.sessionManager.sessionIdHasConnections owner = false

/-- No live owner speaks for the suspect. -/
def Unowned (s : VoiceState) (x : Suspect) : Prop := ∀ v, x.Includes v → s.OwnerDead x.channel v

/-- Whoever is suspected of being gone from a channel has no live owner session there. -/
def SuspectsDead (s : VoiceState) : Prop :=
  ∀ c u, s.reconciler.seen (.participant c u) ≠ none → s.OwnerDead c u

/-- The suspect was observed missing long enough ago. -/
def Due (s : VoiceState) (now : Nat) (x : Suspect) : Prop :=
  ∃ seen, s.reconciler.seen x = some seen ∧ seen.firstSeen + s.reconciler.missingTtl ≤ now

theorem hasActiveOwnerConnection_eq_false :
    s.hasActiveOwnerConnection c u = false ↔ s.OwnerDead c u := by
  unfold hasActiveOwnerConnection OwnerDead
  cases s.sessions.voiceState u with
  | none => simp
  | some seat =>
    obtain ⟨place, owner⟩ := seat
    by_cases here : place = c
    · simp
    · simp

theorem unowned_of_count (dead : s.activeOwnerConnectionCount channel = 0) :
    s.Unowned (.room channel) := by
  intro user _ owner seated
  obtain ⟨participant, listed, rfl⟩ := VoiceSessionManager.mem_participantsInChannel.mpr
    (VoiceSessionManager.userChannel_eq_some.mpr ⟨owner, seated⟩)
  have idle := List.countP_eq_zero.mp dead participant listed
  rw [Bool.not_eq_true] at idle
  exact hasActiveOwnerConnection_eq_false.mp idle owner seated

theorem Subsides.suspectsDead (subsides : Subsides s s') (dead : SuspectsDead s) :
    SuspectsDead s' := by
  intro c u suspected owner seated
  rw [subsides.sessionManager]
  have before := (subsides.seats u c owner seated).resolve_right suspected
  exact dead c u (fun clear => suspected (subsides.evidence.unseen clear)) owner before

theorem filed_origin (files : Files x reason now r r') (found : r'.seen y = some seen) :
    r.seen y = some seen ∨ (y = x ∧ seen.firstSeen = now) := by
  rw [files.filed] at found
  split at found
  · rename_i same
    subst same
    cases before : r.seen y with
    | none =>
      grind
    | some earlier =>
      rw [before] at found
      exact .inl found
  · exact .inl found

/-! ## Visiting suspects -/

/-- The user is taken out of the channel with the suspect, for whom nobody speaks and who was
observed missing long enough ago. -/
structure Taken (s : VoiceState) (now : Nat) (x : Suspect) (v : UserId) : Prop where
  includes : x.Includes v
  here : s.sessions.userChannel v = some x.channel
  unowned : s.Unowned x
  due : s.Due now x

/-- From `s` to `s'` some suspects are visited, each at its time: what is filed and who is taken
out. -/
structure Verdict (Visited : Suspect → Prop) (clock : Suspect → Nat) (s s' : VoiceState) : Prop where
  sessionManager : s'.sessionManager = s.sessionManager
  missingTtl : s'.reconciler.missingTtl = s.reconciler.missingTtl
  filed : ∀ x seen, s'.reconciler.seen x = some seen → s.reconciler.seen x = some seen ∨
    Visited x ∧ s.Unowned x ∧ seen.firstSeen = clock x
  seats : ∀ v, s'.sessions.voiceState v = s.sessions.voiceState v ∨
    s'.sessions.voiceState v = none ∧ ∃ x, Visited x ∧ s.Taken (clock x) x v

section Verdict

variable {Visited Later : Suspect → Prop} {clock : Suspect → Nat}

theorem Verdict.of_subsides (subsides : Subsides s s') (sessions : s'.sessions = s.sessions) :
    Verdict Visited clock s s' where
  sessionManager := subsides.sessionManager
  missingTtl := subsides.evidence.missingTtl
  filed x seen found := .inl (subsides.evidence.filed x seen found)
  seats v := .inl (by rw [sessions])

/-- A suspect is observed missing, and taken out if that is confirmed. -/
theorem Verdict.of_observed {observed : ObservationResult × VoiceReconciler} (visited : Visited x)
    (unowned : s.Unowned x) (cases : Observed x reason (clock x) s.reconciler observed)
    (subsides : Subsides { s with reconciler := observed.2 } t)
    (seats : ∀ v, t.sessions.voiceState v = s.sessions.voiceState v ∨
      t.sessions.voiceState v = none ∧ x.Includes v ∧ s.sessions.userChannel v = some x.channel) :
    Verdict Visited clock s
      (if observed.1.confirmed then t else { s with reconciler := observed.2 }) := by
  rcases cases with ⟨unconfirmed, files⟩ | ⟨confirmed, confirms⟩
  · rw [unconfirmed, if_neg Bool.false_ne_true]
    refine ⟨rfl, files.missingTtl, fun y seen found => (filed_origin files found).imp_right ?_,
      fun _ => .inl rfl⟩
    rintro ⟨rfl, now⟩
    exact ⟨visited, unowned, now⟩
  · rw [confirmed, if_pos rfl]
    have fades := confirms.fades.trans subsides.evidence
    refine ⟨subsides.sessionManager, fades.missingTtl,
      fun y seen found => .inl (fades.filed y seen found), fun v => (seats v).imp_right ?_⟩
    rintro ⟨gone, includes, here⟩
    exact ⟨gone, x, visited, includes, here, unowned, confirms.old⟩

theorem Verdict.suspectsDead (verdict : Verdict Visited clock s s') (dead : SuspectsDead s) :
    SuspectsDead s' := by
  intro c u suspected owner seated
  rw [verdict.sessionManager]
  have before : s.sessions.voiceState u = some ⟨c, owner⟩ := by
    rcases verdict.seats u with same | ⟨gone, -⟩
    · exact same.symm.trans seated
    · cases gone.symm.trans seated
  obtain ⟨seen, found⟩ := Option.ne_none_iff_exists'.mp suspected
  rcases verdict.filed _ seen found with earlier | ⟨-, unowned, -⟩
  · exact dead c u (by simp [earlier]) owner before
  · exact unowned u rfl owner before

/-- Visits one after the other, if nobody is visited twice. -/
theorem Verdict.trans (first : Verdict Visited clock s t) (second : Verdict Later clock t s')
    (apart : ∀ x y v, Visited x → Later y → x.channel = y.channel → x.Includes v → ¬ y.Includes v) :
    Verdict (fun x => Visited x ∨ Later x) clock s s' := by
  have unowned {y : Suspect} (later : Later y) (unowned : t.Unowned y) : s.Unowned y := by
    intro v inside owner seated
    rw [← first.sessionManager]
    refine unowned v inside owner ?_
    rcases first.seats v with same | ⟨-, x, visited, taken⟩
    · exact same.trans seated
    · have here := taken.here.symm.trans
        (VoiceSessionManager.userChannel_eq_some.mpr ⟨owner, seated⟩)
      exact absurd inside (apart x y v visited later (Option.some.inj here) taken.includes)
  refine ⟨second.sessionManager.trans first.sessionManager,
    second.missingTtl.trans first.missingTtl, fun x seen found => ?_, fun v => ?_⟩
  · rcases second.filed x seen found with before | ⟨visited, dead, now⟩
    · exact (first.filed x seen before).imp_right fun ⟨visited, rest⟩ => ⟨.inl visited, rest⟩
    · exact .inr ⟨.inr visited, unowned visited dead, now⟩
  · rcases second.seats v with same | ⟨gone, y, visited, includes, here, dead, seen, found, old⟩
    · rw [same]
      exact (first.seats v).imp_right fun ⟨gone, x, visited, taken⟩ => ⟨gone, x, .inl visited, taken⟩
    · have stays : t.sessions.voiceState v = s.sessions.voiceState v := by
        refine (first.seats v).resolve_right fun ⟨absent, _⟩ => ?_
        simp [VoiceSessionManager.userChannel, absent] at here
      refine .inr ⟨gone, y, .inr visited, includes, ?_, unowned visited dead, seen, ?_, ?_⟩
      · rw [VoiceSessionManager.userChannel, ← stays]
        exact here
      · refine (first.filed y seen found).resolve_right fun ⟨earlier, _⟩ => ?_
        exact apart y y v earlier visited rfl includes includes
      · rw [← first.missingTtl]
        exact old

end Verdict

theorem reconcileLocal_verdict (cfg : Config) (env : Env) (userEnv : UserId → Env) (s : VoiceState)
    (channel : ChannelId) (remote : Map UserId ParticipantMetadata) (participant : ParticipantInfo) :
    Verdict (fun x => participant.userId ∉ remote ∧ x = .participant channel participant.userId)
      (Suspect.clock env userEnv) s (s.reconcileLocal cfg channel userEnv remote participant) := by
  simp only [reconcileLocal]
  split
  · exact .of_subsides (.refl s) rfl
  · rename_i unlisted
    split
    · exact .of_subsides (onReconciler_subsides fades_clearParticipantMissing) rfl
    · rename_i idle
      have dead := hasActiveOwnerConnection_eq_false.mp (Bool.eq_false_iff.mpr idle)
      refine .of_observed ⟨unlisted, rfl⟩ (fun v same => same ▸ dead)
        (observed_observeParticipantMissing ..) forced_subsides fun v => ?_
      rw [forceLocalLeave_spec.sessions]
      dsimp only
      rw [VoiceSessionManager.voiceState_leave]
      split
      · rename_i mine
        exact .inr ⟨rfl, mine.1, mine.1 ▸ mine.2⟩
      · exact .inl rfl

/-- The loop over the tracked participants. -/
theorem local_run_verdict (cfg : Config) (env : Env) (userEnv : UserId → Env) (s : VoiceState)
    (distinct : (tracked.map (·.userId)).Nodup) :
    Verdict (fun x => ∃ u ∈ tracked.map (·.userId), u ∉ remote ∧ x = .participant channel u)
      (Suspect.clock env userEnv) s
      (run (fun s participant => s.reconcileLocal cfg channel userEnv remote participant) s
        tracked) := by
  induction tracked generalizing s with
  | nil => exact .of_subsides (.refl s) rfl
  | cons participant rest ih =>
    obtain ⟨fresh, distinct'⟩ := List.nodup_cons.mp distinct
    have both := (reconcileLocal_verdict cfg env userEnv s channel remote participant).trans
      (ih _ distinct') (by
        rintro x y v ⟨-, rfl⟩ ⟨u, listed, -, rfl⟩ - mine other
        obtain rfl : v = participant.userId := mine
        obtain rfl : participant.userId = u := other
        exact fresh listed)
    rw [run_cons]
    simpa only [List.map_cons, List.exists_mem_cons_iff] using both

/-! ## The loop over the listed participants -/

section RemoteRun

/-- The loop body over the listed participants. -/
abbrev remoteStep (cfg : Config) (env : Env) (channel : ChannelId) (userEnv : UserId → Env)
    (host : String) (localUsers : List UserId) (s : VoiceState)
    (entry : (_ : UserId) × ParticipantMetadata) : VoiceState :=
  s.reconcileRemote cfg env channel userEnv host localUsers entry

variable {localUsers : List UserId} {entry : (_ : UserId) × ParticipantMetadata}
  {entries : List ((_ : UserId) × ParticipantMetadata)}

theorem reconcileRemote_fades :
    Fades (s.reconciler.clearParticipantMissing channel entry.1)
      (s.reconcileRemote cfg env channel userEnv host localUsers entry).reconciler := by
  simp only [reconcileRemote]
  split
  · exact .refl _
  · split
    · set cleared := s.onReconciler (·.clearParticipantMissing channel entry.1)
      have heard : Fades cleared.reconciler
          (cleared.handleParticipantJoined cfg (userEnv entry.1)
            (syntheticJoin env channel entry.1 entry.2)).reconciler :=
        joined_subsides.evidence
      exact heard
    · split <;> exact .refl _

theorem reconcileRemote_subsides :
    Subsides s (s.reconcileRemote cfg env channel userEnv host localUsers entry) := by
  have cleared : Subsides s (s.onReconciler (·.clearParticipantMissing channel entry.1)) :=
    onReconciler_subsides fades_clearParticipantMissing
  simp only [reconcileRemote]
  split
  · exact cleared
  · split
    · exact cleared.trans joined_subsides
    · split
      · exact cleared
      · exact cleared.trans (.of_same rfl rfl rfl)

theorem reconcileRemote_place (v : UserId) :
    (s.reconcileRemote cfg env channel userEnv host localUsers entry).sessions.voiceState v =
        s.sessions.voiceState v ∨
      (s.reconcileRemote cfg env channel userEnv host localUsers entry).sessions.userChannel v =
        some channel := by
  simp only [reconcileRemote]
  split
  · exact .inl rfl
  · split
    · rcases joined_place cfg (userEnv entry.1)
          (s.onReconciler (·.clearParticipantMissing channel entry.1))
          (syntheticJoin env channel entry.1 entry.2) v with same | ⟨-, here⟩
      · exact .inl same
      · exact .inr here
    · split <;> exact .inl rfl

theorem remote_run_subsides :
    Subsides s (run (remoteStep cfg env channel userEnv host localUsers) s entries) :=
  run_invariant (fun _ _ subsides => subsides.trans reconcileRemote_subsides) (.refl s)

theorem remote_run_clears (listed : entry ∈ entries) :
    (run (remoteStep cfg env channel userEnv host localUsers) s
      entries).reconciler.seen (.participant channel entry.1) = none := by
  induction entries generalizing s with
  | nil => nomatch listed
  | cons first rest ih =>
    rcases List.mem_cons.mp listed with rfl | later
    · have after : Subsides (s.reconcileRemote cfg env channel userEnv host localUsers entry)
          (run (remoteStep cfg env channel userEnv host localUsers) s (entry :: rest)) :=
        remote_run_subsides
      exact after.evidence.unseen
        (reconcileRemote_fades.unseen (seen_clearParticipantMissing.trans (if_pos rfl)))
    · exact ih later

theorem remote_run_place (v : UserId) :
    (run (remoteStep cfg env channel userEnv host localUsers) s entries).sessions.voiceState v =
        s.sessions.voiceState v ∨
      (run (remoteStep cfg env channel userEnv host localUsers) s
        entries).sessions.userChannel v = some channel := by
  induction entries generalizing s with
  | nil => exact .inl rfl
  | cons entry rest ih =>
    rcases ih (s := s.reconcileRemote cfg env channel userEnv host localUsers entry) with
      same | here
    · rcases reconcileRemote_place v with same' | here
      · exact .inl (same.trans same')
      · right
        exact (congrArg _ same).trans here
    · exact .inr here

end RemoteRun

/-! ## The whole pass -/

theorem participants_nodup (sessions : VoiceSessionManager) (channel : ChannelId) :
    ((sessions.participantsInChannel channel).map (·.userId)).Nodup := by
  have keys : (sessions.participantsInChannel channel).map (·.userId) =
      (sessions.tables.participants channel).keys := by
    simp [VoiceSessionManager.participantsInChannel, VoiceTables.participantsInChannel, AList.keys,
      List.keys]
  rw [keys]
  exact AList.keys_nodup _

/-- What a reconcile leaves filed and whom it takes out. -/
structure PassOutcome (env : Env) (userEnv : UserId → Env) (channel : ChannelId) (s s' : VoiceState) :
    Prop where
  missingTtl : s'.reconciler.missingTtl = s.reconciler.missingTtl
  suspectsDead : SuspectsDead s → SuspectsDead s'
  filed : ∀ x seen, s'.reconciler.seen x = some seen → s.reconciler.seen x = some seen ∨
    x.channel = channel ∧ seen.firstSeen = x.clock env userEnv
  /-- What is filed of the channel, the poll missed; of a room, no owner was alive either. -/
  missed : ∀ x, s'.reconciler.seen x ≠ none → x.channel = channel →
    Misses env s x ∧ (x = .room channel → s.Unowned x)
  failed : s.poll env channel = none → s'.sessions = s.sessions
  /-- A user who is no longer where they were was adopted in the channel polled, or taken out of
  it with a suspect that the poll missed. -/
  removes : ∀ u c, s.sessions.userChannel u = some c → s'.sessions.userChannel u ≠ some c →
    (c ≠ channel ∧ s'.sessions.userChannel u = some channel) ∨
      ∃ x, x.channel = channel ∧ Misses env s x ∧ s.Taken (x.clock env userEnv) x u

theorem not_mem_of_isEmpty (nobody : Map.isEmpty remote = true) : u ∉ remote := by
  intro listed
  obtain ⟨metadata, found⟩ := (Map.mem_iff_lookup remote u).mp listed
  rw [(Map.isEmpty_iff remote).mp nobody u] at found
  cases found

/-- A poll that fails. -/
theorem failed_outcome : PassOutcome env userEnv channel s
    (s.anyNode.2.onReconciler (·.resetChannel channel)) where
  missingTtl := rfl
  suspectsDead := Subsides.suspectsDead ⟨rfl, fades_resetChannel, fun _ _ _ => .inl⟩
  filed x seen found := .inl (fades_resetChannel.filed x seen found)
  missed _ suspected here := absurd (seen_resetChannel.trans (if_pos here)) suspected
  failed _ := rfl
  removes _ _ was gone := absurd was gone

theorem reconcileAbsent_verdict (env : Env) (userEnv : UserId → Env) (s : VoiceState)
    (channel : ChannelId) (reason : String) (participants : List RemoteParticipant) :
    Verdict (fun x => participants = [] ∧ x = .room channel) (Suspect.clock env userEnv) s
        (s.reconcileAbsent env channel reason participants) ∧
      ((s.reconcileAbsent env channel reason participants).reconciler.seen (.room channel) ≠ none →
        participants = [] ∧ s.Unowned (.room channel)) := by
  simp only [reconcileAbsent]
  split
  · refine ⟨.of_subsides (onReconciler_subsides fades_clearChannelMissing) rfl, fun filed => ?_⟩
    exact absurd (seen_clearChannelMissing.trans (if_pos rfl)) filed
  · rename_i missing
    simp at missing
    obtain ⟨empty, -, idle⟩ := missing
    have dead := unowned_of_count idle
    refine ⟨.of_observed ⟨empty, rfl⟩ dead (observed_observeChannelMissing ..) finished_subsides
      fun v => ?_, fun _ => ⟨empty, dead⟩⟩
    rw [onChannelFinish_spec.sessions]
    dsimp only
    rw [VoiceSessionManager.voiceState_clearChannel]
    split
    · rename_i here
      exact .inr ⟨rfl, trivial, here⟩
    · exact .inl rfl

/-- A poll that lists nobody who has a name. -/
theorem absent_outcome (answered : s.poll env channel = some (host, participants))
    (nobody : Map.isEmpty (remoteByUser participants) = true) :
    PassOutcome env userEnv channel s
      (s.anyNode.2.reconcileAbsent env channel reason participants) := by
  obtain ⟨verdict, empty⟩ :=
    reconcileAbsent_verdict env userEnv s.anyNode.2 channel reason participants
  refine ⟨verdict.missingTtl, verdict.suspectsDead, fun x seen found => ?_, fun x filed here => ?_,
    fun lost => ?_, fun u c was gone => .inr ?_⟩
  · refine (verdict.filed x seen found).imp_right ?_
    rintro ⟨⟨-, rfl⟩, -, now⟩
    exact ⟨rfl, now⟩
  · cases x with
    | participant c u =>
      obtain rfl : c = channel := here
      exact ⟨⟨host, participants, answered, not_mem_of_isEmpty nobody⟩, by simp⟩
    | room c =>
      obtain rfl : c = channel := here
      obtain ⟨rfl, dead⟩ := empty filed
      exact ⟨⟨host, answered⟩, fun _ => dead⟩
  · cases lost.symm.trans answered
  · rcases verdict.seats u with same | ⟨-, x, ⟨rfl, rfl⟩, includes, here, unowned, due⟩
    · exact absurd ((congrArg _ same).trans was) gone
    · exact ⟨.room channel, rfl, ⟨host, answered⟩, includes, here, unowned, due⟩

section

variable (cfg : Config)

/-- A poll that lists somebody. -/
theorem present_outcome (userEnv : UserId → Env)
    (answered : s.poll env channel = some (host, participants)) :
    PassOutcome env userEnv channel s
      (s.anyNode.2.reconcilePresent cfg env channel userEnv host (remoteByUser participants)) := by
  set tracked := s.sessions.participantsInChannel channel
  set start := s.anyNode.2.onReconciler (·.clearChannelMissing channel)
  have cleared : Subsides s start := ⟨rfl, fades_clearChannelMissing, fun _ _ _ => .inl⟩
  set between := run (fun s participant =>
    s.reconcileLocal cfg channel userEnv (remoteByUser participants) participant) start tracked
  have verdict : Verdict (fun x => ∃ u ∈ tracked.map (·.userId), u ∉ remoteByUser participants ∧
      x = .participant channel u) (Suspect.clock env userEnv) start between :=
    local_run_verdict cfg env userEnv start (participants_nodup s.sessions channel)
  set entries := (remoteByUser participants).entries
  have after : Subsides between (run (remoteStep cfg env channel userEnv host
      (tracked.map (·.userId))) between entries) := remote_run_subsides
  refine ⟨?_, fun dead => ?_, fun x seen found => ?_, fun x filed here => ?_, fun lost => ?_,
    fun u c was gone => ?_⟩
  · exact after.evidence.missingTtl.trans verdict.missingTtl
  · exact after.suspectsDead (verdict.suspectsDead (cleared.suspectsDead dead))
  · rcases verdict.filed x seen (after.evidence.filed x seen found) with before | ⟨visited, -, now⟩
    · exact .inl (fades_clearChannelMissing.filed x seen before)
    · obtain ⟨u, -, -, rfl⟩ := visited
      exact .inr ⟨rfl, now⟩
  · cases x with
    | participant c u =>
      obtain rfl : c = channel := here
      refine ⟨⟨host, participants, answered, fun listed => filed ?_⟩, by simp⟩
      obtain ⟨entry, member, rfl⟩ := List.mem_map.mp (AList.mem_keys.mp listed)
      exact remote_run_clears member
    | room c =>
      obtain rfl : c = channel := here
      refine absurd (after.evidence.unseen ?_) filed
      cases found : between.reconciler.seen (.room c) with
      | none => rfl
      | some seen =>
        rcases verdict.filed _ seen found with before | ⟨⟨u, -, -, is⟩, -⟩
        · cases (seen_clearChannelMissing.trans (if_pos rfl)).symm.trans before
        · cases is
  · cases lost.symm.trans answered
  · rcases verdict.seats u with same | ⟨-, x, ⟨v, -, unlisted, rfl⟩, taken⟩
    · rcases remote_run_place u with stays | back
      · exact absurd ((congrArg _ (stays.trans same)).trans was) gone
      · refine .inl ⟨?_, back⟩
        rintro rfl
        exact gone back
    · obtain rfl : u = v := taken.includes
      obtain ⟨seen, found, old⟩ := taken.due
      exact .inr ⟨.participant channel u, rfl, ⟨host, participants, answered, unlisted⟩,
        taken.includes, taken.here, taken.unowned, seen,
        fades_clearChannelMissing.filed _ seen found, old⟩

theorem reconcile_outcome (env : Env) (s : VoiceState) (channel : ChannelId)
    (userEnv : UserId → Env) (reason : String) :
    PassOutcome env userEnv channel s (s.reconcileChannelState cfg env channel userEnv reason) := by
  simp only [reconcileChannelState]
  split
  · exact failed_outcome
  · rename_i host participants answered
    split
    · rename_i nobody
      exact absent_outcome answered nobody
    · exact present_outcome cfg userEnv answered

/-! ## One step -/

/-- A poll of the channel, at least `ttl` before `now`, that misses the suspect. -/
def MissedBy (now ttl : Nat) (x : Suspect) (s : VoiceState) (action : Action) : Prop :=
  ∃ env userEnv reason, action = .reconcile env userEnv x.channel reason ∧
    x.clock env userEnv + ttl ≤ now ∧ Misses env s x

/-- Nothing speaks against the suspect being gone: a poll of the channel succeeds, misses the
suspect and finds no live owner; and no join of the suspect is heard. -/
def Unopposed (x : Suspect) (s : VoiceState) (action : Action) : Prop :=
  (∀ env userEnv reason, action = .reconcile env userEnv x.channel reason →
      Misses env s x ∧ s.Unowned x) ∧
    ∀ found ∈ s.movesOf cfg action, ∀ env event, found.2 = .joined env event → ¬ Names event x

/-- What every run keeps: sessions are minted, suspects have no live owner, and the
reconciler waits as long as it was configured to. -/
structure Watched (missingTtl : Nat) (s : VoiceState) : Prop where
  minted : Minted s.roster
  dead : SuspectsDead s
  ttl : s.reconciler.missingTtl = missingTtl

theorem authenticate_unresumed (env : Env) :
    (s.authenticate cfg env conn user none).reconciler = s.reconciler ∧
      (s.authenticate cfg env conn user none).sessions = s.sessions := by
  simp only [authenticate, executeAuth]
  split
  · exact ⟨rfl, rfl⟩
  · split <;> exact ⟨rfl, rfl⟩

theorem authenticate_suspectsDead (env : Env) (minted : Minted s.roster) (dead : SuspectsDead s) :
    SuspectsDead (s.authenticate cfg env conn user none) := by
  obtain ⟨reconciler, sessions⟩ :
      (s.authenticate cfg env conn user none).reconciler = s.reconciler ∧ _ :=
    authenticate_unresumed cfg env
  intro c u suspected owner seated
  rw [reconciler] at suspected
  rw [sessions] at seated
  have idle := dead c u suspected
  rcases authenticate_cases cfg env s conn user none with quiet | ⟨-, manager, seats, opened⟩
  · rw [quiet.sessionManager]
    exact idle owner seated
  · have old : owner ≤ s.sessionManager.tables.nextSessionId := minted.seats u _ seated
    have manager' : (s.authenticate cfg env conn user none).sessionManager = manager :=
      congrArg Roster.sessionManager opened.becomes.roster
    by_contra alive
    rw [manager', Bool.not_eq_false, SessionManager.sessionIdHasConnections_iff] at alive
    obtain ⟨other, filed⟩ := alive
    rw [opened.tables] at filed
    simp only [SessionTables.openSession, Map.lookup_insert_if] at filed
    split at filed
    · have := Option.some.inj filed
      omega
    · have : s.sessionManager.sessionIdHasConnections owner = true :=
        SessionManager.sessionIdHasConnections_iff.mpr ⟨other, filed⟩
      rw [idle owner seated] at this
      cases this

end

theorem disconnect_settles : s.disconnect conn = s ∨
    Subsides { s with sessionManager := s.sessionManager.removeConnection conn }
        (s.disconnect conn) := by
  unfold disconnect
  split
  · exact .inl rfl
  · right
    dsimp only
    split
    · refine onReconciler_subsides ?_
      split
      · exact .refl _
      · exact fades_request
    · exact .refl _

theorem disconnect_fades : Fades s.reconciler (s.disconnect conn).reconciler := by
  have cases : s.disconnect conn = s ∨ _ := disconnect_settles
  rcases cases with same | settled
  · rw [same]
    exact .refl _
  · exact settled.evidence

theorem removeConnection_suspectsDead (dead : SuspectsDead s) :
    SuspectsDead { s with sessionManager := s.sessionManager.removeConnection conn } := by
  intro c u suspected owner seated
  have idle := dead c u suspected owner seated
  grind [SessionManager.connToSessionId_removeConnection,
    SessionManager.sessionIdHasConnections_iff]

theorem disconnect_suspectsDead (dead : SuspectsDead s) : SuspectsDead (s.disconnect conn) := by
  have cases : s.disconnect conn = s ∨ _ := disconnect_settles
  rcases cases with same | settled
  · rw [same]
    exact dead
  · exact settled.suspectsDead (removeConnection_suspectsDead dead)

/-- Apart from a poll, a step only loses observations. -/
theorem step_fades (steady : action.isSteady = true)
    (unpolled : ∀ env userEnv channel reason, action ≠ .reconcile env userEnv channel reason) :
    Fades s.reconciler (s.step cfg action).reconciler := by
  cases action with
  | authenticate env conn user resume =>
    obtain rfl := Option.isNone_iff_eq_none.mp steady
    have same : (s.step cfg (.authenticate env conn user none)).reconciler = s.reconciler :=
      (authenticate_unresumed cfg env).1
    rw [same]
    exact .refl _
  | disconnect conn => exact disconnect_fades
  | voiceJoin env request => exact voiceJoin_fades
  | webhook env event => exact webhook_subsides.evidence
  | reconcile env userEnv channel reason => exact absurd rfl (unpolled env userEnv channel reason)
  | restart env => exact absurd steady (by simp [Action.isSteady])

theorem step_suspectsDead (steady : action.isSteady = true)
    (minted : Minted s.roster) (dead : SuspectsDead s) : SuspectsDead (s.step cfg action) := by
  cases action with
  | authenticate env conn user resume =>
    obtain rfl := Option.isNone_iff_eq_none.mp steady
    exact authenticate_suspectsDead cfg env minted dead
  | disconnect conn => exact disconnect_suspectsDead dead
  | voiceJoin env request => exact Subsides.suspectsDead ⟨voiceJoin_seats.2, voiceJoin_fades,
      fun _ _ _ seated => .inl (voiceJoin_seats.1 ▸ seated)⟩ dead
  | webhook env event => exact webhook_subsides.suspectsDead dead
  | reconcile env userEnv channel reason =>
    exact (reconcile_outcome cfg env s channel userEnv reason).suspectsDead dead
  | restart env => exact absurd steady (by simp [Action.isSteady])

theorem step_missingTtl (steady : action.isSteady = true) :
    (s.step cfg action).reconciler.missingTtl = s.reconciler.missingTtl := by
  by_cases polls : ∃ env userEnv channel reason, action = .reconcile env userEnv channel reason
  · obtain ⟨env, userEnv, channel, reason, rfl⟩ := polls
    exact (reconcile_outcome cfg env s channel userEnv reason).missingTtl
  · push Not at polls
    exact (step_fades steady polls).missingTtl

theorem step_watched {missingTtl : Nat} (steady : action.isSteady = true)
    (watched : Watched missingTtl s) : Watched missingTtl (s.step cfg action) := by
  refine ⟨step_minted ?_ watched.minted, step_suspectsDead steady watched.minted watched.dead,
    (step_missingTtl steady).trans watched.ttl⟩
  rintro env rfl
  exact absurd steady (by simp [Action.isSteady])

/-- Outside a poll, a join that is heard discards the evidence against its user and
its room. -/
theorem step_clears (listed : found ∈ s.movesOf cfg action)
    (join : found.2 = .joined joins joined) (names : Names joined x)
    (unpolled : ∀ env userEnv channel reason, action ≠ .reconcile env userEnv channel reason) :
    (s.step cfg action).reconciler.seen x = none := by
  cases action with
  | webhook env event => exact webhook_clears listed join names
  | reconcile env userEnv channel reason => exact absurd rfl (unpolled env userEnv channel reason)
  | authenticate | disconnect | voiceJoin | restart => nomatch listed

/-- The joins a poll infers are of its own channel and of users it lists. -/
theorem reconcile_joins_listed
    (listed : found ∈ s.movesOf cfg (.reconcile env userEnv channel reason))
    (join : found.2 = .joined joins joined) :
    joined.channelId = channel ∧ ¬ PolledWithout env s channel joined.userId := by
  obtain ⟨t, m⟩ := found
  obtain rfl : m = .joined joins joined := join
  obtain ⟨user, metadata, rfl, -, -, host, participants, answered, member⟩ :=
    reconcileMoves_joined listed
  refine ⟨rfl, ?_⟩
  rintro ⟨host', participants', answered', unlisted⟩
  obtain ⟨-, rfl⟩ := Prod.mk.inj (Option.some.inj (answered.symm.trans answered'))
  exact unlisted member

theorem Misses.without (misses : Misses env s x) (names : Names event x) :
    PolledWithout env s event.channelId event.userId := by
  cases x with
  | participant channel user =>
    obtain ⟨rfl, rfl⟩ := names
    exact misses
  | room channel =>
    obtain rfl : event.channelId = channel := names.1
    obtain ⟨host, answered⟩ := misses
    exact ⟨host, [], answered, not_mem_of_isEmpty rfl⟩

/-- **An observation after a step** was there before and the step did not speak against it, or
the step filed it. -/
theorem step_evidence (steady : action.isSteady = true) (dead : SuspectsDead s)
    (found : (s.step cfg action).reconciler.seen x = some seen) :
    (s.reconciler.seen x = some seen ∧ Unopposed cfg x s action) ∨
      ∃ env userEnv reason, action = .reconcile env userEnv x.channel reason ∧
        seen.firstSeen = x.clock env userEnv ∧ Misses env s x := by
  by_cases polls : ∃ env userEnv channel reason, action = .reconcile env userEnv channel reason
  · obtain ⟨env, userEnv, channel, reason, rfl⟩ := polls
    have outcome := reconcile_outcome cfg env s channel userEnv reason
    have missed := outcome.missed x fun clear => by
      cases clear.symm.trans found
    rcases outcome.filed x seen found with before | ⟨rfl, now⟩
    · refine .inl ⟨before, ?_, ?_⟩
      · intro env' userEnv' reason' same
        obtain ⟨rfl, -, rfl, -⟩ := Action.reconcile.inj same
        refine ⟨(missed rfl).1, ?_⟩
        cases x with
        | participant c u =>
          rintro v rfl
          exact dead c v (by simp [before])
        | room c => exact (missed rfl).2 rfl
      · intro move listed joins joined join names
        obtain ⟨here, present⟩ := reconcile_joins_listed listed join
        have mine : x.channel = channel := names.1.symm.trans here
        exact present (here ▸ (missed mine).1.without names)
    · exact .inr ⟨env, userEnv, reason, rfl, now, (missed rfl).1⟩
  · push Not at polls
    refine .inl ⟨(step_fades steady polls).filed x seen found, ?_, ?_⟩
    · exact fun env userEnv reason same => absurd same (polls env userEnv x.channel reason)
    · intro move listed joins joined join names
      cases (step_clears listed join names polls).symm.trans found

/-! ## Whole runs -/

/-- Two polls, the current one and one at least `ttl` earlier, missed the suspect; nothing in
between spoke against it; and no owner session has a connection now. -/
structure Confirmed (cfg : Config) (start : VoiceState) (before : List Action) (env : Env)
    (userEnv : UserId → Env) (ttl : Nat) (x : Suspect) : Prop where
  dead : (run (step cfg) start before).Unowned x
  missing : Misses env (run (step cfg) start before) x
  since : Since (step cfg) (MissedBy (x.clock env userEnv) ttl x) (Unopposed cfg x) start before

section Runs

variable {start : VoiceState} {before : List Action} {ttl : Nat}

theorem watched_initial {nodes : List LivekitNode} : Watched ttl (initial limit ttl nodes) :=
  ⟨initial_recorded limit ttl nodes, fun _ _ suspected => absurd rfl suspected, rfl⟩

/-- The evidence against a suspect tells the history of the run. -/
theorem since_missed (steady : ∀ action ∈ before, action.isSteady = true)
    (watched : Watched ttl start) (clean : start.reconciler.seen x = none)
    (found : (run (step cfg) start before).reconciler.seen x = some seen)
    (old : seen.firstSeen + ttl ≤ now) :
    Since (step cfg) (MissedBy now ttl x) (Unopposed cfg x) start before := by
  refine Since.of_mark
    (fun s => ∃ seen, s.reconciler.seen x = some seen ∧ seen.firstSeen + ttl ≤ now)
    (Watched ttl) (Staged.of_forall steady) (fun _ _ watched steady => step_watched steady watched) ?_
    watched ?_ ⟨seen, found, old⟩
  · rintro s action watched steady ⟨seen, found, old⟩
    rcases step_evidence steady watched.dead found with ⟨before, unopposed⟩ | filed
    · exact .inl ⟨⟨seen, before, old⟩, unopposed⟩
    · obtain ⟨env, userEnv, reason, polled, now, misses⟩ := filed
      exact .inr ⟨env, userEnv, reason, polled, now ▸ old, misses⟩
  · rintro ⟨seen, found, -⟩
    cases clean.symm.trans found

end Runs

end VoiceState

/-! ## Ada closes her laptop, Bob stays -/

namespace Vanished

open VoiceState Sample

/-- LiveKit lists Bob only. -/
def withBob (seconds : Nat) : Env :=
  { env seconds with
    listParticipants := fun _ _ =>
      some [{ identity := bob, metadata := { appSessionId := 2, intentNonce := "nnn" } }] }

/-- Ada and Bob are in the lounge, Ada's connection closes, and a first poll misses her. -/
def missedOnce : List Action :=
  together ++ [.disconnect (connOf ada),
    .reconcile (withBob 10) (fun _ => withBob 10) lounge "periodic"]

/-- A second poll. -/
def polled (seconds : Nat) : VoiceState :=
  (run (step cfg) start missedOnce).step cfg
    (.reconcile (withBob seconds) (fun _ => withBob seconds) lounge "periodic")

/-- At 39 seconds it is too early. -/
example : (polled 39).sessions.userChannel ada = some lounge := by decide

end Vanished

end Kergit
