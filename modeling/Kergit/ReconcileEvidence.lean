import Kergit.Adoption
import Kergit.Lib.Since

/-!
What each part of the voice service does to the evidence of absence.

A poll that misses a room or a participant files an observation.  `Fades` says that
a change of the evidence tables files nothing; every handler fades.  `Subsides` adds
that nobody suspected of being gone got a seat back without being cleared, which is
what keeps `SuspectsDead`: whoever is suspected has no live owner session.  Only
`reconcileLocal` and `reconcileAbsent` file, and each lemma about them says when.
-/

namespace Kergit

open Lib

/-- What a poll can miss: a participant of a channel, or the whole room. -/
inductive Suspect where
  | participant (channel : ChannelId) (user : UserId)
  | room (channel : ChannelId)
deriving DecidableEq

def Suspect.channel : Suspect → ChannelId
  | participant channel _ | room channel => channel

def Suspect.Includes : Suspect → UserId → Prop
  | .participant _ user, v => v = user
  | .room _, _ => True

namespace VoiceReconciler

variable {r r' r'' : VoiceReconciler} {channel : ChannelId} {user : UserId} {reason : String}
  {now : Nat} {x y : Suspect}

/-- The observation filed of a suspect. -/
def seen (r : VoiceReconciler) : Suspect → Option MissingObservation
  | .participant channel user => r.participantSeen channel user
  | .room channel => r.missingChannels.lookup channel

theorem seen_clearParticipantMissing : (r.clearParticipantMissing channel user).seen x =
    if x = .participant channel user then none else r.seen x := by
  cases x with
  | room c => rfl
  | participant c u =>
    simp only [seen, participantSeen, clearParticipantMissing, Map.inner_setInner]
    grind

theorem seen_clearChannelMissing :
    (r.clearChannelMissing channel).seen x = if x = .room channel then none else r.seen x := by
  cases x with
  | room c => simp [seen, clearChannelMissing, Map.lookup_erase_if]
  | participant c u => rfl

theorem seen_resetChannel :
    (r.resetChannel channel).seen x = if x.channel = channel then none else r.seen x := by
  cases x with
  | room c => exact Map.lookup_erase_if _ _ _
  | participant c u =>
    change _ = if c = channel then none else _
    simp only [seen, participantSeen, resetChannel, Map.inner_erase]
    split <;> rfl

/-- Nothing new is suspected. -/
structure Fades (r r' : VoiceReconciler) : Prop where
  missingTtl : r'.missingTtl = r.missingTtl
  filed : ∀ x observed, r'.seen x = some observed → r.seen x = some observed

theorem Fades.refl (r : VoiceReconciler) : Fades r r := ⟨rfl, fun _ _ => id⟩

theorem Fades.trans (first : Fades r r') (second : Fades r' r'') : Fades r r'' where
  missingTtl := second.missingTtl.trans first.missingTtl
  filed := fun x observed found => first.filed x observed (second.filed x observed found)

theorem Fades.unseen (fades : Fades r r') (clear : r.seen x = none) : r'.seen x = none := by
  cases found : r'.seen x with
  | none => rfl
  | some observed => nomatch clear.symm.trans (fades.filed x observed found)

theorem fades_request : Fades r (r.request channel) := by
  unfold request
  split
  · exact .refl r
  · exact ⟨rfl, fun _ _ => id⟩

/-- Some observations are cleared. -/
theorem Fades.of_clear [DecidablePred P] (ttl : r'.missingTtl = r.missingTtl)
    (cleared : ∀ x, r'.seen x = if P x then none else r.seen x) : Fades r r' := by
  refine ⟨ttl, fun x observed found => ?_⟩
  rw [cleared] at found
  split at found
  · nomatch found
  · exact found

theorem fades_clearChannelMissing : Fades r (r.clearChannelMissing channel) :=
  .of_clear (P := (· = .room channel)) rfl fun _ => seen_clearChannelMissing

theorem fades_clearParticipantMissing : Fades r (r.clearParticipantMissing channel user) :=
  .of_clear (P := (· = .participant channel user)) rfl fun _ => seen_clearParticipantMissing

theorem fades_resetChannel : Fades r (r.resetChannel channel) :=
  .of_clear (P := (·.channel = channel)) rfl fun _ => seen_resetChannel

/-- The observation of a suspect is filed or kept. -/
structure Files (x : Suspect) (reason : String) (now : Nat) (r r' : VoiceReconciler) : Prop where
  missingTtl : r'.missingTtl = r.missingTtl
  filed : ∀ y, r'.seen y = if y = x then some ((r.seen x).getD ⟨now, reason⟩) else r.seen y

/-- The observation of a suspect is old enough, and dropped. -/
structure Confirms (x : Suspect) (now : Nat) (r r' : VoiceReconciler) : Prop where
  fades : Fades r r'
  cleared : r'.seen x = none
  old : ∃ observed, r.seen x = some observed ∧ observed.firstSeen + r.missingTtl ≤ now

/-- What observing a suspect comes to. -/
def Observed (x : Suspect) (reason : String) (now : Nat) (r : VoiceReconciler)
    (out : ObservationResult × VoiceReconciler) : Prop :=
  (out.1.confirmed = false ∧ Files x reason now r out.2) ∨
    (out.1.confirmed = true ∧ Confirms x now r out.2)

/-- It comes from how a suspect is filed and how one is dropped. -/
theorem Observed.of_match {file clear : VoiceReconciler}
    {observed : ObservationResult × VoiceReconciler} (is : observed = match r.seen x with
      | none => (⟨true, false, reason⟩, file)
      | some earlier =>
        (r.revisit now earlier, if (r.revisit now earlier).confirmed then clear else r))
    (ttl : file.missingTtl = r.missingTtl)
    (files : ∀ y, file.seen y = if y = x then some ⟨now, reason⟩ else r.seen y)
    (fades : Fades r clear) (cleared : clear.seen x = none) : Observed x reason now r observed := by
  subst is
  cases found : r.seen x with
  | none => exact .inl ⟨rfl, ttl, fun y => by rw [files, found]; rfl⟩
  | some earlier =>
    by_cases old : earlier.firstSeen + r.missingTtl ≤ now
    · simp [Observed, revisit, old]
      exact ⟨fades, cleared, earlier, found, old⟩
    · simp [Observed, revisit, old]
      refine ⟨rfl, fun y => ?_⟩
      split
      · rename_i same
        rw [same, found]
        rfl
      · rfl

theorem observed_observeParticipantMissing (r : VoiceReconciler) (channel : ChannelId)
    (user : UserId) (reason : String) (now : Nat) :
    Observed (.participant channel user) reason now r
      (r.observeParticipantMissing channel user reason now) := by
  refine .of_match rfl rfl (fun y => ?_) fades_clearParticipantMissing
    (seen_clearParticipantMissing.trans (if_pos rfl))
  cases y with
  | room c => rfl
  | participant c u =>
    simp [seen, participantSeen]
    grind

theorem observed_observeChannelMissing (r : VoiceReconciler) (channel : ChannelId)
    (reason : String) (now : Nat) :
    Observed (.room channel) reason now r (r.observeChannelMissing channel reason now) := by
  refine .of_match rfl rfl (fun y => ?_) fades_resetChannel
    (seen_resetChannel.trans (if_pos rfl))
  cases y with
  | room c => simp [seen, Map.lookup_insert_if]
  | participant c u => rfl

end VoiceReconciler

namespace VoiceState

open VoiceReconciler

variable {cfg : Config} {env : Env} {userEnv : UserId → Env} {s s' t : VoiceState}
  {event : LiveKitEvent} {channel c : ChannelId} {user u : UserId} {reason host : String}
  {remote : Map UserId ParticipantMetadata} {seen : MissingObservation}

/-- Evidence fades, and whoever is still suspected in a channel and seated there had
that seat before. -/
structure Subsides (s s' : VoiceState) : Prop where
  sessionManager : s'.sessionManager = s.sessionManager
  evidence : Fades s.reconciler s'.reconciler
  seats : ∀ u c owner, s'.sessions.voiceState u = some ⟨c, owner⟩ →
    s.sessions.voiceState u = some ⟨c, owner⟩ ∨ s'.reconciler.seen (.participant c u) = none

theorem Subsides.refl (s : VoiceState) : Subsides s s := ⟨rfl, .refl _, fun _ _ _ => Or.inl⟩

theorem Subsides.trans (first : Subsides s t) (second : Subsides t s') : Subsides s s' where
  sessionManager := second.sessionManager.trans first.sessionManager
  evidence := first.evidence.trans second.evidence
  seats := by
    intro u c owner seated
    rcases second.seats u c owner seated with before | cleared
    · rcases first.seats u c owner before with start | cleared
      · exact .inl start
      · exact .inr (second.evidence.unseen cleared)
    · exact .inr cleared

/-- The tables of the reconciler are the same, and so are seats and connections. -/
theorem Subsides.of_same (sessionManager : s'.sessionManager = s.sessionManager)
    (reconciler : s'.reconciler = s.reconciler) (sessions : s'.sessions = s.sessions) :
    Subsides s s' :=
  ⟨sessionManager, reconciler ▸ .refl _, fun _ _ _ seated => .inl (sessions ▸ seated)⟩

theorem onReconciler_subsides
    (fades : Fades s.reconciler (change s.reconciler)) : Subsides s (s.onReconciler change) :=
  ⟨rfl, fades, fun _ _ _ => .inl⟩

/-- A departure: seats go, evidence fades. -/
theorem Subsides.of_departure (sessionManager : s'.sessionManager = s.sessionManager)
    (evidence : Fades s.reconciler s'.reconciler)
    (seats : ∀ u seat, s'.sessions.voiceState u = some seat → s.sessions.voiceState u = some seat) :
    Subsides s s' :=
  ⟨sessionManager, evidence, fun u _ _ seated => .inl (seats u _ seated)⟩

/-! ## The handlers -/

theorem joined_fades :
    Fades (s.heard event).reconciler (s.handleParticipantJoined cfg env event).reconciler := by
  cases correlated : s.correlatedIntent env event with
  | some intent =>
    rw [handleParticipantJoined_eq correlated]
    exact .refl _
  | none =>
    rcases handleParticipantJoined_none cfg correlated with is | is <;> rw [is]
    · exact .refl _
    · unfold kickUser
      split <;> exact fades_request

/-- The event speaks of the suspect. -/
def Names (event : LiveKitEvent) (x : Suspect) : Prop :=
  event.channelId = x.channel ∧ x.Includes event.userId

/-- **A join clears what was suspected** of its user and of its channel, admitted or
not. -/
theorem joined_clears (names : Names event x) :
    (s.handleParticipantJoined cfg env event).reconciler.seen x = none := by
  refine joined_fades.unseen (seen_clearParticipantMissing.trans ?_)
  cases x with
  | participant channel user =>
    obtain ⟨rfl, rfl⟩ := names
    exact if_pos rfl
  | room channel =>
    obtain rfl : event.channelId = channel := names.1
    exact seen_clearChannelMissing.trans (if_pos rfl)

theorem joined_subsides : Subsides s (s.handleParticipantJoined cfg env event) where
  sessionManager := joined_inherits.sessionManager
  evidence := (fades_clearChannelMissing.trans fades_clearParticipantMissing).trans joined_fades
  seats := by
    intro u c owner seated
    rcases joined_place cfg env s event u with same | ⟨rfl, here⟩
    · exact .inl (same.symm.trans seated)
    · rw [VoiceSessionManager.userChannel, seated, Option.map_some, Option.some.injEq] at here
      obtain rfl := here
      exact .inr (joined_clears ⟨rfl, rfl⟩)

theorem closeOrRotate_reconciler :
    (s.closeOrRotate cfg env channel emptied).reconciler = s.reconciler := by
  unfold closeOrRotate
  split
  · rfl
  · exact rotateAndBroadcast_rekeys.reconciler

theorem left_fades : Fades s.reconciler (s.handleParticipantLeft cfg env event).reconciler := by
  have unseated : Fades s.reconciler (s.unseated event.channelId event.userId).reconciler :=
    fades_clearParticipantMissing
  simp only [handleParticipantLeft]
  split
  · rw [show (s.leaveCurrentVoice cfg env event _).reconciler = _ from closeOrRotate_reconciler]
    exact unseated
  · split
    · rw [show (s.leaveOldChannel cfg env event _).reconciler = _ from closeOrRotate_reconciler]
      exact unseated
    · exact fades_request

theorem left_subsides : Subsides s (s.handleParticipantLeft cfg env event) :=
  .of_departure left_inherits.sessionManager left_fades fun _ _ => left_seats

theorem forced_subsides : Subsides s (s.forceLocalLeave cfg env user channel) := by
  refine .of_departure ?_ ?_ fun _ _ => forced_seats
  · exact congrArg Roster.sessionManager forceLocalLeave_spec.roster
  · rw [show (s.forceLocalLeave cfg env user channel).reconciler = _ from closeOrRotate_reconciler]
    exact fades_clearParticipantMissing

theorem dismissFrom_all_reconciler (env : Env) (s : VoiceState) (channel : ChannelId)
    (users : List UserId) :
    (users.foldl (fun s user => s.dismissFrom env channel user) s).reconciler = s.reconciler := by
  induction users generalizing s with
  | nil => rfl
  | cons user rest ih => exact (ih _).trans rfl

theorem finished_subsides : Subsides s (s.onChannelFinish env channel) := by
  refine .of_departure ?_ ?_ fun _ _ => finished_seats
  · exact congrArg Roster.sessionManager onChannelFinish_spec.roster
  · have reconciler : (s.onChannelFinish env channel).reconciler = (s.disbanded channel).reconciler :=
      dismissFrom_all_reconciler env (s.disbanded channel) channel _
    rw [reconciler]
    exact fades_resetChannel

/-! ## The other steps -/

theorem dispatch_subsides : Subsides s (s.dispatch cfg env event) := by
  unfold dispatch
  cases event.type with
  | roomStarted =>
    dsimp only
    unfold onRoomStarted
    split
    · exact .refl s
    · exact .of_same rfl rfl rfl
  | roomFinished =>
    simp only [onRoomFinished]
    split
    · rename_i consumed
      obtain rfl := (Prod.mk.inj consumed).2
      exact .of_same rfl rfl rfl
    · rename_i consumed
      obtain rfl := (Prod.mk.inj consumed).2
      exact ⟨rfl, fades_resetChannel.trans fades_request, fun _ _ _ => .inl⟩
  | participantJoined =>
    have joined : Subsides _ (VoiceState.handleParticipantJoined cfg env { s with
        nodes := if event.nodeId ≠ "" && s.currentNodeId event = "" then
          s.nodes.bindRoom event.channelId event.nodeId else s.nodes } event) := joined_subsides
    exact ⟨joined.sessionManager, joined.evidence, joined.seats⟩
  | participantLeft | participantConnectionAborted =>
    have left : Subsides s (s.handleParticipantLeft cfg env event) := left_subsides
    refine left.trans ?_
    refine ⟨rfl, ?_, fun _ _ _ => .inl⟩
    change Fades _ (if _ then _ else _)
    split
    · exact fades_request
    · exact .refl _
  | telemetry | unknown => exact .refl s

theorem webhook_subsides : Subsides s (s.onLivekitEvent cfg env event) := by
  have marked : Subsides s (s.markWebhookEventSeen cfg env event.eventId).2 := by
    unfold markWebhookEventSeen
    split
    · exact .refl s
    · exact .of_same rfl rfl rfl
  have judged : ∀ t : VoiceState, Subsides t (t.isStaleEvent event).2 := by
    intro t
    unfold isStaleEvent isStaleParticipantEvent isStaleRoomEvent
    split
    any_goals
      split
      · exact .refl t
      · exact .of_same rfl rfl rfl
    all_goals exact .refl t
  unfold onLivekitEvent
  split
  · rename_i t seen
    rw [seen] at marked
    exact marked
  · rename_i t fresh
    rw [fresh] at marked
    have filtered := judged t
    split
    · rename_i t' stale
      rw [stale] at filtered
      exact marked.trans (filtered.trans (onReconciler_subsides fades_request))
    · rename_i t' timely
      rw [timely] at filtered
      exact marked.trans (filtered.trans dispatch_subsides)

/-- A webhook that gets a join to the handler clears what was suspected of it. -/
theorem webhook_clears (listed : found ∈ s.webhookMoves cfg env event)
    (join : found.2 = .joined joins joined) (names : Names joined x) :
    (s.onLivekitEvent cfg env event).reconciler.seen x = none := by
  have dispatched : ∀ t : VoiceState, found ∈ t.dispatchMoves env event →
      (t.dispatch cfg env event).reconciler.seen x = none := by
    intro t listed
    unfold dispatchMoves at listed
    unfold dispatch
    cases kind : event.type with
    | participantJoined =>
      rw [kind] at listed
      rw [List.mem_singleton.mp listed] at join
      obtain ⟨-, rfl⟩ := Move.joined.inj join
      exact joined_clears names
    | participantLeft | participantConnectionAborted =>
      grind
    | roomStarted | roomFinished | telemetry | unknown =>
      rw [kind] at listed
      nomatch listed
  unfold webhookMoves at listed
  unfold onLivekitEvent
  grind

theorem issueToken_fades {request : JoinVoiceChannelRequest} :
    Fades s.reconciler (s.issueToken cfg env request user sessionId).2.reconciler := by
  have acquired : ∀ t : VoiceState, Fades t.reconciler
      ((t.onReconciler (·.clearChannelMissing request.channel)).acquireForJoin cfg env
        request.channel user).2.reconciler := by
    intro t
    rw [acquireForJoin_rekeys.reconciler]
    exact fades_clearChannelMissing
  have joined : Fades s.reconciler
      (VoiceState.joinVoice cfg env { s with nonceDraws := s.nonceDraws + 1 } request.channel user
        sessionId (cfg.generateNonceHex s.nonceDraws)).2.reconciler := by
    unfold joinVoice
    split
    · exact .refl _
    · have taken := acquired (VoiceState.anyNode { s with nonceDraws := s.nonceDraws + 1 }).2
      dsimp only
      split
      · rename_i failed
        rw [failed] at taken
        exact taken
      · rename_i got
        rw [got] at taken
        exact taken
  simp only [issueToken]
  unfold concludeJoin
  split
  · exact joined
  · split
    · exact joined
    · exact joined

theorem voiceJoin_fades {request : JoinVoiceChannelRequest} :
    Fades s.reconciler (s.voiceJoin cfg env request).reconciler := by
  simp only [voiceJoin, executeJoin]
  split
  · exact .refl _
  · rename_i user sessionId allowed
    have revoked : (s.revokePreviousSeat cfg env request user sessionId).2.reconciler =
        s.reconciler := by
      unfold revokePreviousSeat
      split
      · rfl
      · have kicked : ∀ (t : VoiceState) (c : ChannelId),
            (t.verifiedKickUser env c user).2.reconciler = t.reconciler := by
          intro t c
          unfold verifiedKickUser
          split <;> rfl
        grind
    split
    · rename_i refusal t refused
      rw [refused] at revoked
      exact revoked ▸ .refl _
    · rename_i messages t passed
      rw [passed] at revoked
      have issued : Fades t.reconciler
          (t.issueToken cfg env request user sessionId).2.reconciler := issueToken_fades
      rw [show t.reconciler = s.reconciler from revoked] at issued
      split
      · rename_i refusal t' refused
        rw [refused] at issued
        exact issued
      · rename_i token t' given
        rw [given] at issued
        exact issued

end VoiceState

end Kergit
