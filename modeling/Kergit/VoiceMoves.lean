import Kergit.VoiceHandlers

/-!
A step of the voice service taken apart into moves.

A webhook and a reconcile pass change who is where only through four functions:
the two participant handlers, `force_local_leave` and `on_channel_finish`.  A
`Move` is a call of one of them.  `movesOf` lists the moves an action makes, each
with the state it finds, so a condition on "every join this action applies" is a
condition on that list; and `step_turns` says that the action amounts to these
moves with quiet bookkeeping between them.
-/

namespace Kergit

open Lib

/-- A call of one of the four functions that move users. -/
inductive Move where
  | joined (env : Env) (event : LiveKitEvent)
  | left (env : Env) (event : LiveKitEvent)
  | forced (env : Env) (user : UserId) (channel : ChannelId)
  | finished (env : Env) (channel : ChannelId)

/-- What the call finds outside. -/
def Move.env : Move → Env
  | .joined env _ | .left env _ | .forced env _ _ | .finished env _ => env

/-- Every call an action makes finds an outside that meets `P`. -/
def Action.Finds (P : Env → Prop) : Action → Prop
  | .authenticate env .. | .voiceJoin env _ | .webhook env _ | .restart env => P env
  | .reconcile env userEnv .. => P env ∧ ∀ user, P (userEnv user)
  | .disconnect _ => True

/-- LiveKit reports, by a webhook or when a reconcile asks. -/
def Action.isReport : Action → Bool
  | .webhook .. | .reconcile .. => true
  | _ => false

namespace VoiceState

variable (cfg : Config)

def move (s : VoiceState) : Move → VoiceState
  | .joined env event => s.handleParticipantJoined cfg env event
  | .left env event => s.handleParticipantLeft cfg env event
  | .forced env user channel => s.forceLocalLeave cfg env user channel
  | .finished env channel => s.onChannelFinish env channel

/-! ## The moves of an action -/

section Moves

variable (env : Env) (s : VoiceState)

/-- The handler call a dispatched event makes, in the state it makes it in. -/
def dispatchMoves (event : LiveKitEvent) : List (VoiceState × Move) :=
  match event.type with
  | .participantJoined =>
    [({ s with
        nodes := if event.nodeId ≠ "" && s.currentNodeId event = "" then
          s.nodes.bindRoom event.channelId event.nodeId else s.nodes }, .joined env event)]
  | .participantLeft | .participantConnectionAborted => [(s, .left env event)]
  | .roomStarted | .roomFinished | .telemetry | .unknown => []

/-- The same for a webhook: nothing when it is a duplicate or stale. -/
def webhookMoves (event : LiveKitEvent) : List (VoiceState × Move) :=
  match s.markWebhookEventSeen cfg env event.eventId with
  | (false, _) => []
  | (true, s) =>
    match s.isStaleEvent event with
    | (true, _) => []
    | (false, s) => s.dispatchMoves env event

variable (channel : ChannelId)

/-- Reconcile against an answer that names nobody. -/
def absentMoves (reason : String) (participants : List RemoteParticipant) :
    List (VoiceState × Move) :=
  if participants ≠ [] ∨ s.sessions.isEmpty channel ∨ 0 < s.activeOwnerConnectionCount channel then []
  else
    let (result, reconciler) := s.reconciler.observeChannelMissing channel reason env.steadyNow
    if result.confirmed then [({ s with reconciler }, .finished env channel)] else []

variable (userEnv : UserId → Env)

/-- Reconcile of a tracked participant. -/
def localMoves (remote : Map UserId ParticipantMetadata) (participant : ParticipantInfo) :
    List (VoiceState × Move) :=
  let user := participant.userId
  if user ∈ remote ∨ s.hasActiveOwnerConnection channel user then []
  else
    let (result, reconciler) := s.reconciler.observeParticipantMissing channel user
      "participant_missing_in_livekit" (userEnv user).steadyNow
    if result.confirmed then [({ s with reconciler }, .forced (userEnv user) user channel)] else []

/-- Reconcile of a listed participant. -/
def remoteMoves (localUsers : List UserId) (entry : (_ : UserId) × ParticipantMetadata) :
    List (VoiceState × Move) :=
  let s := s.onReconciler (·.clearParticipantMissing channel entry.1)
  if entry.1 ∉ localUsers ∧ s.correlationValid env channel entry.1 entry.2 then
    [(s, .joined (userEnv entry.1) (syntheticJoin env channel entry.1 entry.2))]
  else []

/-- Reconcile against an answer that names somebody. -/
def presentMoves (host : String) (remote : Map UserId ParticipantMetadata) :
    List (VoiceState × Move) :=
  let tracked := s.sessions.participantsInChannel channel
  let start := s.onReconciler (·.clearChannelMissing channel)
  let localStep := fun (s : VoiceState) participant =>
    s.reconcileLocal cfg channel userEnv remote participant
  let remoteStep := fun (s : VoiceState) entry =>
    s.reconcileRemote cfg env channel userEnv host (tracked.map (·.userId)) entry
  ((stages localStep start tracked).flatMap fun stage =>
      stage.1.localMoves channel userEnv remote stage.2) ++
    ((stages remoteStep (run localStep start tracked) remote.entries).flatMap fun stage =>
      stage.1.remoteMoves env channel userEnv (tracked.map (·.userId)) stage.2)

def reconcileMoves (reason : String) : List (VoiceState × Move) :=
  match s.poll env channel with
  | none => []
  | some (host, participants) =>
    let remote := remoteByUser participants
    if Map.isEmpty remote then s.anyNode.2.absentMoves env channel reason participants
    else s.anyNode.2.presentMoves cfg env channel userEnv host remote

/-- The moves of an action, each with the state it finds. -/
def movesOf : Action → List (VoiceState × Move)
  | .webhook env event => s.webhookMoves cfg env event
  | .reconcile env userEnv channel reason => s.reconcileMoves cfg env channel userEnv reason
  | .authenticate .. | .disconnect .. | .voiceJoin .. | .restart .. => []

end Moves

/-! ## Actions as moves -/

/-- A quiet change, or a move that meets `Guard` in the state it finds. -/
inductive Turn (Guard : VoiceState → Move → Prop) (s s' : VoiceState) : Prop where
  | quiet (quiet : Quiet s s')
  | move (m : Move) (allowed : Guard s m) (moved : s' = s.move cfg m)

/-- A chain of turns. -/
abbrev Turns (Guard : VoiceState → Move → Prop) : VoiceState → VoiceState → Prop :=
  Relation.ReflTransGen (Turn cfg Guard)

variable {cfg} {env : Env} {userEnv : UserId → Env} {s s' t : VoiceState} {event : LiveKitEvent}
  {channel : ChannelId} {Guard : VoiceState → Move → Prop} {reason host : String}
  {remote : Map UserId ParticipantMetadata}

theorem Quiet.turns (quiet : Quiet s s') : Turns cfg Guard s s' := .single (.quiet quiet)

theorem Turns.of_move (cfg : Config) (allowed : Guard s m) : Turns cfg Guard s (s.move cfg m) :=
  .single (.move m allowed rfl)

/-- What every turn keeps, a chain of turns keeps. -/
theorem Turns.invariant (turns : Turns cfg Guard s s') (Inv : VoiceState → Prop)
    (quietly : ∀ s s', Quiet s s' → Inv s → Inv s')
    (moving : ∀ s m, Guard s m → Inv s → Inv (s.move cfg m)) (start : Inv s) : Inv s' := by
  induction turns with
  | refl => exact start
  | tail _ turn ih =>
    cases turn with
    | quiet quiet => exact quietly _ _ quiet ih
    | move m allowed moved => exact moved ▸ moving _ m allowed ih

theorem markWebhookEventSeen_quiet (eventId : String) :
    Quiet s (s.markWebhookEventSeen cfg env eventId).2 := by
  unfold markWebhookEventSeen
  split
  · exact Quiet.refl s
  · exact ⟨rfl, rfl, rfl, Nat.le_refl _, rfl, rfl⟩

theorem isStaleEvent_quiet : Quiet s (s.isStaleEvent event).2 := by
  unfold isStaleEvent isStaleParticipantEvent isStaleRoomEvent
  split
  any_goals
    split
    · exact Quiet.refl s
    · exact ⟨rfl, rfl, rfl, Nat.le_refl _, rfl, rfl⟩
  all_goals exact Quiet.refl s

theorem onRoomStarted_quiet : Quiet s (s.onRoomStarted event) := by
  unfold onRoomStarted
  split
  · exact Quiet.refl s
  · exact nodes_quiet _

theorem onRoomFinished_quiet : Quiet s (s.onRoomFinished env event) := by
  simp only [onRoomFinished]
  split
  all_goals
    rename_i t consumed
    obtain rfl := (Prod.mk.inj consumed).2
    exact ⟨rfl, rfl, rfl, Nat.le_refl _, rfl, rfl⟩

theorem dispatch_turns (allowed : ∀ found ∈ s.dispatchMoves env event, Guard found.1 found.2) :
    Turns cfg Guard s (s.dispatch cfg env event) := by
  unfold dispatchMoves at allowed
  unfold dispatch
  cases kind : event.type with
  | roomStarted => exact onRoomStarted_quiet.turns
  | roomFinished => exact onRoomFinished_quiet.turns
  | participantJoined =>
    rw [kind] at allowed
    have joined := Turns.of_move cfg (allowed _ List.mem_cons_self)
    exact ((nodes_quiet _).turns.trans joined).trans (nodes_quiet _).turns
  | participantLeft | participantConnectionAborted =>
    rw [kind] at allowed
    have left := Turns.of_move cfg (allowed _ List.mem_cons_self)
    exact left.trans ((nodes_quiet _).trans (onReconciler_quiet _)).turns
  | telemetry | unknown => exact .refl

theorem webhook_turns (allowed : ∀ found ∈ s.webhookMoves cfg env event, Guard found.1 found.2) :
    Turns cfg Guard s (s.onLivekitEvent cfg env event) := by
  unfold webhookMoves at allowed
  unfold onLivekitEvent
  have marked : Quiet s (s.markWebhookEventSeen cfg env event.eventId).2 :=
    markWebhookEventSeen_quiet _
  rcases seen : s.markWebhookEventSeen cfg env event.eventId with ⟨fresh, t⟩
  rw [seen] at marked allowed
  cases fresh with
  | false => exact marked.turns
  | true =>
    have filtered : Quiet t (t.isStaleEvent event).2 := isStaleEvent_quiet
    dsimp only at marked allowed ⊢
    rcases judged : t.isStaleEvent event with ⟨stale, t'⟩
    rw [judged] at filtered allowed
    cases stale with
    | true => exact (marked.trans (filtered.trans (onReconciler_quiet _))).turns
    | false => exact (marked.trans filtered).turns.trans (dispatch_turns allowed)

theorem reconcileAbsent_turns
    (allowed : ∀ found ∈ s.absentMoves env channel reason participants, Guard found.1 found.2) :
    Turns cfg Guard s (s.reconcileAbsent env channel reason participants) := by
  simp only [absentMoves] at allowed
  simp only [reconcileAbsent]
  split
  · exact (onReconciler_quiet _).turns
  · rename_i missing
    rw [if_neg missing] at allowed
    have observed : Quiet s { s with reconciler :=
        (s.reconciler.observeChannelMissing channel reason env.steadyNow).2 } :=
      onReconciler_quiet fun _ => _
    split
    · rename_i confirmed
      rw [if_pos confirmed] at allowed
      exact observed.turns.trans (Turns.of_move cfg (allowed _ List.mem_cons_self))
    · exact observed.turns

theorem reconcileLocal_turns
    (allowed : ∀ found ∈ s.localMoves channel userEnv remote participant, Guard found.1 found.2) :
    Turns cfg Guard s (s.reconcileLocal cfg channel userEnv remote participant) := by
  simp only [localMoves] at allowed
  simp only [reconcileLocal]
  split
  · exact .refl
  · rename_i unlisted
    split
    · exact (onReconciler_quiet _).turns
    · rename_i dead
      rw [if_neg (by simp [unlisted, dead])] at allowed
      have observed : Quiet s { s with reconciler :=
          (s.reconciler.observeParticipantMissing channel participant.userId
            "participant_missing_in_livekit" (userEnv participant.userId).steadyNow).2 } :=
        onReconciler_quiet fun _ => _
      split
      · rename_i confirmed
        rw [if_pos confirmed] at allowed
        exact observed.turns.trans (Turns.of_move cfg (allowed _ List.mem_cons_self))
      · exact observed.turns

theorem reconcileRemote_turns (host : String)
    (allowed : ∀ found ∈ s.remoteMoves env channel userEnv localUsers entry,
      Guard found.1 found.2) :
    Turns cfg Guard s (s.reconcileRemote cfg env channel userEnv host localUsers entry) := by
  simp only [remoteMoves] at allowed
  simp only [reconcileRemote]
  have cleared : Quiet s (s.onReconciler (·.clearParticipantMissing channel entry.1)) :=
    onReconciler_quiet _
  split
  · exact cleared.turns
  · rename_i untracked
    split
    · rename_i valid
      rw [if_pos ⟨untracked, valid⟩] at allowed
      exact cleared.turns.trans (Turns.of_move cfg (allowed _ List.mem_cons_self))
    · split
      · exact cleared.turns
      · exact (cleared.trans (emit_quiet ⟨rfl, rfl⟩)).turns

theorem reconcilePresent_turns
    (allowed : ∀ found ∈ s.presentMoves cfg env channel userEnv host remote, Guard found.1 found.2) :
    Turns cfg Guard s (s.reconcilePresent cfg env channel userEnv host remote) := by
  simp only [presentMoves, List.forall_mem_append, List.forall_mem_flatMap] at allowed
  obtain ⟨locally, remotely⟩ := allowed
  have first := (Staged.of_stages locally).chain fun s participant => reconcileLocal_turns
  have second := (Staged.of_stages remotely).chain fun s entry => reconcileRemote_turns host
  exact (onReconciler_quiet _).turns.trans (first.trans second)

theorem reconcile_turns
    (allowed : ∀ found ∈ s.reconcileMoves cfg env channel userEnv reason, Guard found.1 found.2) :
    Turns cfg Guard s (s.reconcileChannelState cfg env channel userEnv reason) := by
  unfold reconcileMoves at allowed
  simp only [reconcileChannelState]
  split
  · exact (anyNode_quiet.trans (onReconciler_quiet _)).turns
  · rename_i host participants answered
    rw [answered] at allowed
    dsimp only at allowed
    split
    · rename_i nobody
      rw [if_pos nobody] at allowed
      exact anyNode_quiet.turns.trans (reconcileAbsent_turns allowed)
    · rename_i somebody
      rw [if_neg somebody] at allowed
      exact anyNode_quiet.turns.trans (reconcilePresent_turns allowed)

/-- **A report amounts to its moves.** -/
theorem step_turns (report : action.isReport = true)
    (allowed : ∀ found ∈ s.movesOf cfg action, Guard found.1 found.2) :
    Turns cfg Guard s (s.step cfg action) := by
  cases action with
  | webhook env event => exact webhook_turns allowed
  | reconcile env userEnv channel reason => exact reconcile_turns allowed
  | _ => exact absurd report (by simp [Action.isReport])

/-- Only a join applies a join, and what a departure sends is addressed by the roster it
ends in. -/
theorem departure_becomes (departs : ∀ env event, m ≠ .joined env event) :
    Becomes s (s.move cfg m) (s.move cfg m).roster [] := by
  cases m with
  | joined env event => exact absurd rfl (departs env event)
  | left env event =>
    by_cases fits : s.LeaveFits env event
    · have applied : Becomes s (s.handleParticipantLeft cfg env event) _ [] :=
        handleParticipantLeft_applied fits
      exact applied.roster ▸ applied
    · rw [move, handleParticipantLeft_unfit fits]
      exact (onReconciler_quiet _).steady.becomes
  | forced env user channel =>
    have left : Becomes s (s.forceLocalLeave cfg env user channel) _ [] := forceLocalLeave_spec
    exact left.roster ▸ left
  | finished env channel =>
    have finished : Becomes s (s.onChannelFinish env channel) _ [] := onChannelFinish_spec
    exact finished.roster ▸ finished

theorem move_becomes (m : Move) :
    ∃ joins, Becomes s (s.move cfg m) (s.move cfg m).roster joins := by
  cases m with
  | joined env event =>
    cases correlated : s.correlatedIntent env event with
    | none =>
      have quiet : Quiet s (s.handleParticipantJoined cfg env event) :=
        handleParticipantJoined_rejected correlated
      exact ⟨[], quiet.roster ▸ quiet.steady.becomes⟩
    | some intent =>
      have admitted : Becomes s (s.handleParticipantJoined cfg env event) _ _ :=
        handleParticipantJoined_admitted correlated
      exact ⟨_, admitted.roster ▸ admitted⟩
  | left | forced | finished => exact ⟨[], departure_becomes (by simp)⟩

/-- The moves of an action find what the action finds. -/
theorem movesOf_env (finds : action.Finds P) : ∀ found ∈ s.movesOf cfg action, P found.2.env := by
  intro found listed
  cases action with
  | authenticate | disconnect | voiceJoin | restart => nomatch listed
  | webhook env event =>
    have mine : ∀ t : VoiceState, ∀ found ∈ t.dispatchMoves env event, P found.2.env := by
      intro t found listed
      unfold dispatchMoves at listed
      split at listed
      any_goals exact absurd listed List.not_mem_nil
      all_goals
        rw [List.mem_singleton.mp listed]
        exact finds
    simp only [movesOf, webhookMoves] at listed
    grind
  | reconcile env userEnv channel reason =>
    obtain ⟨here, there⟩ := finds
    simp only [movesOf, reconcileMoves] at listed
    split at listed
    · nomatch listed
    · split at listed
      · simp only [absentMoves] at listed
        split at listed
        · nomatch listed
        · split at listed
          · rw [List.mem_singleton.mp listed]
            exact here
          · nomatch listed
      · simp only [presentMoves, List.mem_append, List.mem_flatMap] at listed
        rcases listed with ⟨stage, -, mine⟩ | ⟨stage, -, mine⟩
        · simp only [localMoves] at mine
          split at mine
          · nomatch mine
          · split at mine
            · rw [List.mem_singleton.mp mine]
              exact there _
            · nomatch mine
        · simp only [remoteMoves] at mine
          split at mine
          · rw [List.mem_singleton.mp mine]
            exact there _
          · nomatch mine

end VoiceState

end Kergit
