import Kergit.Lib.Discipline
import Kergit.KeyRaces

/-!
Rotations and joins of one voice channel, interleaved.

A rotation draws a key and pushes it to the participants it finds; a confirmed join puts the
user among the participants and then pushes the current key to them.  Both push under the
channel's rotation mutex, but the join itself does not take it: a user can join while a
rotation is on its way, before or after it has listed the participants.

`Owes` says which pushes are still to come: a rotation owes the key to everybody until it has
listed the participants and to those on its list after that, a join owes it to its user.  A
participant has the current key, or is owed it, or nothing has happened to them at all.  When
all calls have finished nothing is owed, and that is `keys_converge`.
-/

namespace Kergit

open Lib

namespace KeyConvergence

/-- The calls: each takes a lock of its own, or none; `lock` and `unlock` are the channel's
rotation mutex. -/
inductive ShareCall where
  | join (channel : ChannelId) (user : UserId) (session : Nat)
  | userChannel (user : UserId)
  | lock (channel : ChannelId)
  | unlock (channel : ChannelId)
  | rotateKey (channel : ChannelId)
  | persistToStorage (channel : ChannelId) (key : ChannelKey)
  | getKey (channel : ChannelId)
  | getChannel (channel : ChannelId)
  | participantsInChannel (channel : ChannelId)
  | userSession (user : UserId)
  | getSessionIdConnections (session : Nat)
  | emit (effect : Effect)
deriving DecidableEq, Repr

@[reducible] def ShareCall.Answer : ShareCall → Type
  | .join _ _ _ => Bool
  | .userChannel _ => Option ChannelId
  | .rotateKey _ => Option ChannelKey
  | .getKey _ => Option ChannelKey
  | .getChannel _ => Option Channel
  | .participantsInChannel _ => List ParticipantInfo
  | .userSession _ => Option Nat
  | .getSessionIdConnections _ => List GlobalConnId
  | .lock _ | .unlock _ | .persistToStorage _ _ | .emit _ => Unit

abbrev ShareProg := Prog ShareCall ShareCall.Answer Unit

/-! ## Programs -/

def call (c : ShareCall) : ShareProg c.Answer := Prog.ask c

def voiceKeyUpdateToUser (hub : HubId) (channel : ChannelId) (key : ChannelKey) (user : UserId) :
    ShareProg Unit := do
  let owner : Option Nat ← call (.userSession user)
  match owner with
  | none => pure ()
  | some session =>
    let conns : List GlobalConnId ← call (.getSessionIdConnections session)
    match conns with
    | [] => pure ()
    | conns => call (.emit (.keyUpdate conns hub channel user key))

def voiceKeyUpdate (hub : HubId) (channel : ChannelId) (key : ChannelKey) : ShareProg Unit := do
  let present : List ParticipantInfo ← call (.participantsInChannel channel)
  Prog.forEach (voiceKeyUpdateToUser hub channel key) (present.map (·.userId))

def broadcastKey (channel : ChannelId) (key : ChannelKey) : ShareProg Unit := do
  let info : Option Channel ← call (.getChannel channel)
  match info with
  | none => pure ()
  | some info => voiceKeyUpdate info.hubId channel key

def rotateLocked (channel : ChannelId) : ShareProg ChannelKey := do
  let drawn : Option ChannelKey ← call (.rotateKey channel)
  match drawn with
  | none => pure {}
  | some key =>
    call (.persistToStorage channel key)
    broadcastKey channel key
    pure key

def rotateAndBroadcast (channel : ChannelId) : ShareProg ChannelKey := do
  call (.lock channel)
  let rotated ← rotateLocked channel
  call (.unlock channel)
  pure rotated

def resyncLocked (channel : ChannelId) (user : UserId) : ShareProg Unit := do
  let current : Option ChannelKey ← call (.getKey channel)
  match current with
  | none => pure ()
  | some key =>
    let info : Option Channel ← call (.getChannel channel)
    match info with
    | none => pure ()
    | some info => voiceKeyUpdateToUser info.hubId channel key user

def resyncToUser (user : UserId) : ShareProg Unit := do
  let tracked : Option ChannelId ← call (.userChannel user)
  match tracked with
  | none => pure ()
  | some channel =>
    call (.lock channel)
    resyncLocked channel user
    call (.unlock channel)

-- `handle_participant_joined`, what it does to the tracked participants and the
-- keys.
def confirmedJoin (channel : ChannelId) (user : UserId) (session : Nat) : ShareProg Unit := do
  let _ ← call (.join channel user session)
  resyncToUser user

inductive ShareCommand where
  | rotateAndBroadcast
  | confirmedJoin (user : UserId) (session : Nat)
deriving DecidableEq, Repr

/-- The commands on a channel; the result is the key that came out, if one does. -/
def prog (channel : ChannelId) : ShareCommand → ShareProg (Option ChannelKey)
  | .rotateAndBroadcast => do
    let rotated ← rotateAndBroadcast channel
    pure (some rotated)
  | .confirmedJoin user session => do
    confirmedJoin channel user session
    pure none

/-! ## Calls -/

/-- The voice service's state and the rotation mutexes that are held. -/
structure Desk where
  voice : VoiceState
  locked : List ChannelId := []

section Calls

variable (cfg : Config) (env : Env) (s : Desk)

def exec : (c : ShareCall) → Except Unit c.Answer × Desk
  | .join channel user session =>
    (.ok (s.voice.sessions.join channel user session).1,
      { s with voice.sessions := (s.voice.sessions.join channel user session).2 })
  | .userChannel user => (.ok (s.voice.sessions.userChannel user), s)
  | .lock channel => (.ok (), { s with locked := channel :: s.locked })
  | .unlock channel => (.ok (), { s with locked := s.locked.erase channel })
  | .rotateKey channel =>
    (.ok (s.voice.rotateKey cfg channel).1, { s with voice := (s.voice.rotateKey cfg channel).2 })
  | .persistToStorage channel key =>
    (.ok (), { s with voice := s.voice.onKeys (·.persistToStorage cfg env channel key) })
  | .getKey channel => (.ok (s.voice.keys.getKey channel), s)
  | .getChannel channel => (.ok (env.getChannel channel), s)
  | .participantsInChannel channel => (.ok (s.voice.sessions.participantsInChannel channel), s)
  | .userSession user => (.ok (s.voice.sessions.userSession user), s)
  | .getSessionIdConnections session =>
    (.ok (s.voice.sessionManager.getSessionIdConnections session), s)
  | .emit effect => (.ok (), { s with voice := s.voice.emit effect })

def machine (channel : ChannelId) :
    Machine ShareCall ShareCall.Answer Unit ShareCommand (Option ChannelKey) Desk Env where
  exec := fun env c s => exec cfg env s c
  prog := prog channel

end Calls

abbrev ShareScene := Scene ShareCall ShareCall.Answer Unit ShareCommand (Option ChannelKey) Desk

abbrev ShareTranscript := Transcript ShareCall ShareCall.Answer Unit

abbrev ShareEntry := (c : ShareCall) × Except Unit c.Answer

/-! ## A program by itself -/

section Alone

variable {cfg : Config} {env : Env} {home channel : ChannelId} {hub : HubId} {key : ChannelKey}
  {user : UserId} {s : Desk}

/-- Push messages, the voice service's way. -/
def Desk.emitAll (s : Desk) (effects : List Effect) : Desk :=
  { s with voice := s.voice.emitAll effects }

theorem Desk.emitAll_append (first second : List Effect) :
    s.emitAll (first ++ second) = (s.emitAll first).emitAll second := by
  simp [Desk.emitAll, VoiceState.emitAll]

theorem voiceKeyUpdateToUser_alone :
    (voiceKeyUpdateToUser hub channel key user).alone (machine cfg home).exec env s =
      (.ok (), s.emitAll (s.voice.voiceKeyUpdateToUser hub channel user key)) := by
  refine (Prog.alone_bind rfl).trans ?_
  unfold VoiceState.voiceKeyUpdateToUser
  cases s.voice.sessions.userSession user with
  | none => rfl
  | some session =>
    refine (Prog.alone_bind rfl).trans ?_
    dsimp only [machine, exec]
    cases s.voice.sessionManager.getSessionIdConnections session with
    | nil | cons conn conns => rfl

/-- The updates go out one by one; each reads the same owners. -/
theorem updates_alone (users : List UserId) :
    (Prog.forEach (voiceKeyUpdateToUser hub channel key) users).alone (machine cfg home).exec
      env s =
      (.ok (), s.emitAll (users.flatMap fun user =>
        s.voice.voiceKeyUpdateToUser hub channel user key)) := by
  induction users generalizing s with
  | nil => rfl
  | cons user rest ih =>
    change (voiceKeyUpdateToUser hub channel key user >>= fun _ => Prog.forEach _ rest).alone _ _ _
      = _
    rw [Prog.alone_bind voiceKeyUpdateToUser_alone, ih, List.flatMap_cons, Desk.emitAll_append]
    rfl

theorem broadcastKey_alone :
    (broadcastKey channel key).alone (machine cfg home).exec env s =
      (.ok (), { s with voice := s.voice.broadcastKey env channel key }) := by
  refine (Prog.alone_bind rfl).trans ?_
  unfold VoiceState.broadcastKey
  cases env.getChannel channel with
  | none => rfl
  | some info =>
    dsimp only
    rw [voiceKeyUpdate, Prog.alone_bind rfl, updates_alone, List.flatMap_map]
    rfl

/-- A single thread runs `rotate_and_broadcast`. -/
theorem rotateAndBroadcast_alone :
    (rotateAndBroadcast channel).alone (machine cfg home).exec env s =
      (.ok (s.voice.rotateAndBroadcast cfg env channel).1,
        { s with voice := (s.voice.rotateAndBroadcast cfg env channel).2 }) := by
  have locked : (rotateLocked channel).alone (machine cfg home).exec env
      { s with locked := channel :: s.locked } =
        (.ok (s.voice.rotateAndBroadcast cfg env channel).1,
          { voice := (s.voice.rotateAndBroadcast cfg env channel).2
            locked := channel :: s.locked }) := by
    have drawn : (call (.rotateKey channel)).alone (machine cfg home).exec env
        { s with locked := channel :: s.locked } =
          (.ok (s.voice.rotateKey cfg channel).1,
            { voice := (s.voice.rotateKey cfg channel).2, locked := channel :: s.locked }) := rfl
    rw [rotateLocked, Prog.alone_bind drawn]
    unfold VoiceState.rotateAndBroadcast
    rcases s.voice.rotateKey cfg channel with ⟨_ | key, voice⟩
    · rfl
    · rw [Prog.alone_bind rfl, Prog.alone_bind broadcastKey_alone]
      rfl
  refine (Prog.alone_bind rfl).trans ((Prog.alone_bind locked).trans ?_)
  change (Except.ok _, ({ voice := _, locked := (channel :: s.locked).erase channel } : Desk)) = _
  rw [List.erase_cons_head]

theorem resyncLocked_alone (tracked : ChannelId) :
    (resyncLocked tracked user).alone (machine cfg home).exec env s =
      (.ok (), s.emitAll <| match s.voice.keys.getKey tracked, env.getChannel tracked with
        | some key, some info => s.voice.voiceKeyUpdateToUser info.hubId tracked user key
        | _, _ => []) := by
  refine (Prog.alone_bind rfl).trans ?_
  cases s.voice.keys.getKey tracked with
  | none => rfl
  | some key =>
    refine (Prog.alone_bind rfl).trans ?_
    cases env.getChannel tracked with
    | none => rfl
    | some info => exact voiceKeyUpdateToUser_alone

/-- A single thread runs `resync_to_user`. -/
theorem resyncToUser_alone :
    (resyncToUser user).alone (machine cfg home).exec env s =
      (.ok (), { s with voice := s.voice.resyncToUser env user }) := by
  refine (Prog.alone_bind rfl).trans ?_
  unfold VoiceState.resyncToUser
  cases s.voice.sessions.userChannel user with
  | none => rfl
  | some tracked =>
    refine (Prog.alone_bind rfl).trans ((Prog.alone_bind (resyncLocked_alone tracked)).trans ?_)
    change (Except.ok _, ({ voice := _, locked := (tracked :: s.locked).erase tracked } : Desk)) = _
    rw [List.erase_cons_head]
    rfl

end Alone

/-! ## What a task still has to push -/

section Duties

variable (channel : ChannelId) (t : ShareTranscript)

/-- The task holds the rotation mutex. -/
def Locked : Prop :=
  ⟨.lock channel, .ok ()⟩ ∈ t ∧ ⟨.unlock channel, .ok ()⟩ ∉ t

/-- The task has drawn a key. -/
def Rotated : Prop := ∃ key, ⟨.rotateKey channel, .ok (some key)⟩ ∈ t

/-- The key the task has read or drawn. -/
def Carries (key : ChannelKey) : Prop :=
  ⟨.getKey channel, .ok (some key)⟩ ∈ t ∨ ⟨.rotateKey channel, .ok (some key)⟩ ∈ t

def Joined (user : UserId) : Prop :=
  ∃ session first, ⟨.join channel user session, .ok first⟩ ∈ t

/-- The task has found the user among the participants. -/
def Listed (user : UserId) : Prop :=
  ∃ present, ⟨.participantsInChannel channel, .ok present⟩ ∈ t ∧ user ∈ present.map (·.userId)

/-- The task has pushed a key to the user. -/
def Sent (user : UserId) : Prop :=
  ∃ conns hub key, ⟨.emit (.keyUpdate conns hub channel user key), .ok ()⟩ ∈ t

/-- A rotation on its way concerns everybody until it has listed the participants, then
those on its list. -/
structure Concerns (t : ShareTranscript) (user : UserId) : Prop where
  rotated : Rotated channel t
  locked : ⟨.unlock channel, .ok ()⟩ ∉ t
  listed : ∀ present, ⟨.participantsInChannel channel, .ok present⟩ ∈ t →
    user ∈ present.map (·.userId)

/-- The task is still to push a key to the user. -/
def Owed (user : UserId) : Prop :=
  ¬ Sent channel t user ∧ (Joined channel t user ∨ Concerns channel t user)

/-- An answer after which no key is pushed. -/
def Misses : ShareEntry → Prop
  | ⟨.userChannel _, .ok tracked⟩ => tracked ≠ some channel
  | ⟨.getKey _, .ok none⟩ => True
  | ⟨.getChannel _, .ok none⟩ => True
  | ⟨.userSession _, .ok none⟩ => True
  | ⟨.getSessionIdConnections _, .ok []⟩ => True
  | _ => False

def Missed : Prop := ∃ entry ∈ t, Misses channel entry

/-- What a task does, as long as it gets answers: keys are drawn, read and pushed under the
mutex, and the mutex is not given back before everybody on the list has been pushed the key. -/
def Duty : ShareCall → Prop
  | .join c user _ => c = channel ∧ ¬ Sent channel t user
  | .userChannel user => Joined channel t user
  | .lock c => c = channel ∧ ∀ key, ¬ Carries channel t key
  | .unlock c => c = channel ∧ Locked channel t ∧
    ∀ user, Concerns channel t user → Sent channel t user
  | .rotateKey c => c = channel ∧ Locked channel t ∧ (∀ key, ¬ Carries channel t key) ∧
    (∀ user, ¬ Sent channel t user) ∧ ∀ present, ⟨.participantsInChannel channel, .ok present⟩ ∉ t
  | .getKey c => c = channel ∧ Locked channel t
  | .userSession user => Listed channel t user ∨ Joined channel t user
  | .emit effect => ∀ conns hub c user key, effect = .keyUpdate conns hub c user key →
    c = channel ∧ Locked channel t ∧ Carries channel t key
  | _ => True

def Rule (c : ShareCall) : Prop := ¬ Missed channel t → Duty channel t c

/-- Every call is answered. -/
def Possible (c : ShareCall) (answer : Except Unit c.Answer) : Prop := ∃ a, answer = .ok a

def Close : Prop := ¬ Missed channel t → ∀ user, ¬ Owed channel t user

/-- The discipline of a command. -/
def discipline (cfg : Config) : Discipline (machine cfg channel) where
  Possible := Possible
  Rule := fun _ => Rule channel
  End := fun _ _ => Close channel
  possible := by
    intro env c s
    cases c <;> exact ⟨_, rfl⟩

end Duties

section Along

variable {channel : ChannelId} {t t' : ShareTranscript} {user : UserId} {key : ChannelKey}
  {hub : HubId} {α : Type}

theorem missed_along {p : ShareProg α} (missed : Missed channel t) :
    p.Along Possible (Rule channel) (fun _ t => Missed channel t) t := by
  induction p generalizing t with
  | ret a | raise e => exact missed
  | call c next ih =>
    refine ⟨fun unmissed => absurd missed unmissed, fun answer _ => ih answer ?_⟩
    obtain ⟨entry, listed, misses⟩ := missed
    exact ⟨entry, List.mem_cons_of_mem _ listed, misses⟩

/-- The calls that push a key to a user. -/
def Pushing : ShareCall → Prop
  | .userSession _ | .getSessionIdConnections _ | .emit _ => True
  | _ => False

/-- From `t` on, a key has been pushed to users, and nothing else. -/
structure Grown (t t' : ShareTranscript) : Prop where
  kept : ∀ entry ∈ t, entry ∈ t'
  only : ∀ entry ∈ t', entry ∈ t ∨ Pushing entry.1

theorem Grown.refl : Grown t t := ⟨fun _ listed => listed, fun _ listed => Or.inl listed⟩

theorem Grown.trans {t'' : ShareTranscript} (first : Grown t t') (second : Grown t' t'') :
    Grown t t'' := by
  refine ⟨fun entry listed => second.kept _ (first.kept _ listed), ?_⟩
  intro entry listed
  rcases second.only entry listed with earlier | quiet
  · exact first.only entry earlier
  · exact .inr quiet

/-- Any other call has been made before. -/
theorem Grown.before {c : ShareCall} {answer : Except Unit c.Answer} (grown : Grown t t')
    (called : ⟨c, answer⟩ ∈ t') (other : ¬ Pushing c) : ⟨c, answer⟩ ∈ t :=
  (grown.only _ called).resolve_right other

theorem Grown.call {c : ShareCall} {answer : Except Unit c.Answer} (pushing : Pushing c) :
    Grown t (⟨c, answer⟩ :: t) := by
  refine ⟨fun _ listed => List.mem_cons_of_mem _ listed, fun entry listed => ?_⟩
  grind

theorem Locked.grown (locked : Locked channel t) (grown : Grown t t') : Locked channel t' :=
  ⟨grown.kept _ locked.1, fun unlocked => locked.2 (grown.before unlocked id)⟩

theorem Carries.grown (carries : Carries channel t key) (grown : Grown t t') :
    Carries channel t' key :=
  carries.imp (grown.kept _) (grown.kept _)

theorem Listed.grown (listed : Listed channel t user) (grown : Grown t t') :
    Listed channel t' user := by
  obtain ⟨present, answered, named⟩ := listed
  exact ⟨present, grown.kept _ answered, named⟩

theorem Sent.grown (sent : Sent channel t user) (grown : Grown t t') : Sent channel t' user := by
  obtain ⟨conns, hub, key, pushed⟩ := sent
  exact ⟨conns, hub, key, grown.kept _ pushed⟩

/-- The calls of a program have answers. -/
theorem not_possible_error : ¬ Possible c (.error e) := by
  rintro ⟨a, is⟩
  nomatch is

/-- A program ends in a result, with what it was to do done, as long as there are answers. -/
def Ends (channel : ChannelId) (Q : ShareTranscript → Prop) (result : Except Unit α)
    (t : ShareTranscript) : Prop :=
  ¬ Missed channel t → (∃ a, result = .ok a) ∧ Q t

/-- A program that does its duty, and ends in `Q`. -/
abbrev Serves (channel : ChannelId) (Q : ShareTranscript → Prop) (p : ShareProg α) :
    ShareTranscript → Prop :=
  p.Along Possible (Rule channel) (Ends channel Q)

theorem ends_missing {Q : ShareTranscript → Prop} {r : Except Unit α}
    (misses : Misses channel entry) : Ends channel Q r (entry :: t) :=
  fun unmissed => absurd ⟨entry, List.mem_cons_self, misses⟩ unmissed

/-- Sequencing: where there was no answer, the rest does not matter. -/
theorem along_bind {β : Type} {f : α → ShareProg β} {Q R : ShareTranscript → Prop}
    (along : Serves channel Q p t) (rest : ∀ a t, Q t → Serves channel R (f a) t) :
    Serves channel R (p >>= f) t := by
  apply along.bind
  · intro a t' ends
    by_cases missed : Missed channel t'
    · exact (missed_along missed).mono fun r t'' missed unmissed => absurd missed unmissed
    · exact rest a t' (ends missed).2
  · intro e t' ends unmissed
    obtain ⟨⟨a, is⟩, -⟩ := ends unmissed
    nomatch is

theorem along_mono {p : ShareProg α} {Q R : ShareTranscript → Prop}
    (along : Serves channel Q p t) (weaker : ∀ t, Q t → R t) : Serves channel R p t :=
  along.mono fun _ t' ends unmissed => ⟨(ends unmissed).1, weaker t' (ends unmissed).2⟩

/-- A call, and what follows its answer. -/
theorem along_call {β : Type} {f : c.Answer → ShareProg β}
    {R : ShareTranscript → Prop} (duty : ¬ Missed channel t → Duty channel t c)
    (rest : ∀ a, Serves channel R (f a) (⟨c, .ok a⟩ :: t)) : Serves channel R (call c >>= f) t := by
  apply Prog.Along.bind_ask duty
  · exact fun a _ => rest a
  · exact fun e impossible => absurd impossible not_possible_error

theorem along_last {c : ShareCall} {R : ShareTranscript → Prop}
    (duty : ¬ Missed channel t → Duty channel t c) (ends : ∀ a, R (⟨c, .ok a⟩ :: t)) :
    Serves channel R (call c) t := by
  apply Prog.Along.ask duty
  rintro _ ⟨a, rfl⟩ _
  exact ⟨⟨a, rfl⟩, ends a⟩

/-- A key goes out to a user. -/
theorem update_along (locked : Locked channel t) (carries : Carries channel t key)
    (known : Listed channel t user ∨ Joined channel t user) :
    Serves channel (fun t' => Grown t t' ∧ Sent channel t' user)
      (voiceKeyUpdateToUser hub channel key user) t := by
  refine along_call (fun _ => known) fun owner => ?_
  cases owner with
  | none => exact ends_missing trivial
  | some session =>
    refine along_call (fun _ => trivial) fun conns => ?_
    cases conns with
    | nil => exact ends_missing trivial
    | cons conn conns =>
      have owned : Grown t (⟨.userSession user, .ok (some session)⟩ :: t) := .call trivial
      have grown : Grown t (⟨.getSessionIdConnections session, .ok (conn :: conns)⟩ ::
          ⟨.userSession user, .ok (some session)⟩ :: t) := owned.trans (.call trivial)
      apply along_last
      · rintro _ _ _ _ _ _ ⟨⟩
        exact ⟨rfl, locked.grown grown, carries.grown grown⟩
      · exact fun _ => ⟨grown.trans (.call trivial), _, _, _, List.mem_cons_self⟩

/-- A key goes out to everybody on a list. -/
theorem updates_along {users : List UserId} (locked : Locked channel t)
    (carries : Carries channel t key) (known : ∀ user ∈ users, Listed channel t user) :
    Serves channel (fun t' => Grown t t' ∧ ∀ user ∈ users, Sent channel t' user)
      (Prog.forEach (voiceKeyUpdateToUser hub channel key) users) t := by
  induction users generalizing t with
  | nil => exact fun _ => ⟨⟨(), rfl⟩, .refl, nofun⟩
  | cons user rest ih =>
    apply along_bind (update_along locked carries (.inl (known user List.mem_cons_self)))
    rintro _ t' ⟨grown, sent⟩
    have others := ih (locked.grown grown) (carries.grown grown) fun other listed =>
      (known other (List.mem_cons_of_mem _ listed)).grown grown
    refine along_mono others ?_
    rintro t'' ⟨later, all⟩
    refine ⟨grown.trans later, fun other listed => ?_⟩
    rcases List.mem_cons.mp listed with rfl | tail
    · exact sent.grown later
    · exact all other tail

/-- A rotation that has the mutex, once the key has gone out to everybody it concerns. -/
structure Told (channel : ChannelId) (t : ShareTranscript) : Prop where
  locked : Locked channel t
  unjoined : ∀ user, ¬ Joined channel t user
  told : ∀ user, Concerns channel t user → Sent channel t user

theorem rotateLocked_along :
    Serves channel (Told channel) (rotateLocked channel) [⟨.lock channel, .ok ()⟩] := by
  apply along_call
  · intro _
    refine ⟨rfl, ?_, ?_, ?_, ?_⟩ <;> simp [Locked, Carries, Sent]
  · intro drawn
    cases drawn with
    | none =>
      refine fun _ => ⟨⟨_, rfl⟩, ?_, ?_, ?_⟩
      · simp [Locked]
      · simp [Joined]
      · rintro user ⟨⟨key, rotated⟩, -, -⟩
        simp at rotated
    | some key =>
      refine along_call (fun _ => trivial) fun _ => ?_
      have broadcast : Serves channel (Told channel) (broadcastKey channel key)
          [⟨.persistToStorage channel key, .ok ()⟩, ⟨.rotateKey channel, .ok (some key)⟩,
            ⟨.lock channel, .ok ()⟩] := by
        refine along_call (fun _ => trivial) fun info => ?_
        cases info with
        | none => exact ends_missing trivial
        | some info =>
          refine along_call (fun _ => trivial) fun present => ?_
          apply along_mono
          · apply updates_along
            · simp [Locked]
            · simp [Carries]
            · exact fun user named => ⟨present, List.mem_cons_self, named⟩
          rintro t ⟨grown, all⟩
          refine ⟨.grown ?_ grown, ?_, fun user concerned => all user ?_⟩
          · simp [Locked]
          · rintro user ⟨session, first, joined⟩
            have earlier := grown.before joined id
            simp at earlier
          · exact concerned.listed present (grown.kept _ List.mem_cons_self)
      apply along_bind broadcast
      exact fun _ t held _ => ⟨⟨_, rfl⟩, held⟩

theorem not_concerns_of_unlock (unlocked : ⟨.unlock channel, .ok ()⟩ ∈ t) :
    ¬ Concerns channel t user :=
  fun concerned => concerned.locked unlocked

theorem rotate_along :
    Serves channel (fun t => ∀ user, ¬ Owed channel t user) (rotateAndBroadcast channel) [] := by
  refine along_call (fun _ => ⟨rfl, by simp [Carries]⟩) fun _ => ?_
  apply along_bind rotateLocked_along
  rintro rotated t ⟨locked, unjoined, told⟩
  refine along_call (fun _ => ⟨rfl, locked, told⟩) fun _ unmissed => ⟨⟨_, rfl⟩, ?_⟩
  rintro user ⟨-, ⟨session, first, joined⟩ | concerned⟩
  · rcases List.mem_cons.mp joined with is | earlier
    · cases is
    · exact unjoined user ⟨session, first, earlier⟩
  · exact not_concerns_of_unlock List.mem_cons_self concerned

/-- A resync that has the mutex: the current key goes out to the user. -/
theorem resyncLocked_along (locked : Locked channel t) (joined : Joined channel t user)
    (unrotated : ¬ Rotated channel t) :
    Serves channel (fun t' => Locked channel t' ∧ Sent channel t' user ∧ ¬ Rotated channel t' ∧
      ∀ other, Joined channel t' other → Joined channel t other) (resyncLocked channel user) t := by
  refine along_call (fun _ => ⟨rfl, locked⟩) fun current => ?_
  cases current with
  | none => exact ends_missing trivial
  | some key =>
    refine along_call (fun _ => trivial) fun info => ?_
    cases info with
    | none => exact ends_missing trivial
    | some info =>
      have still : Locked channel (⟨.getChannel channel, .ok (some info)⟩ ::
          ⟨.getKey channel, .ok (some key)⟩ :: t) := by
        obtain ⟨taken, free⟩ := locked
        exact ⟨by simp [taken], by simp [free]⟩
      apply along_mono
      · apply update_along still
        · exact .inl (by simp)
        · obtain ⟨session, first, called⟩ := joined
          exact .inr ⟨session, first, by simp [called]⟩
      · rintro t' ⟨grown, sent⟩
        refine ⟨still.grown grown, sent, ?_, ?_⟩
        · rintro ⟨other, rotated⟩
          have earlier := grown.before rotated id
          exact unrotated ⟨other, by simpa using earlier⟩
        · rintro other ⟨session, first, called⟩
          have earlier := grown.before called id
          exact ⟨session, first, by simpa using earlier⟩

theorem join_along {session : Nat} : Serves channel (fun t => ∀ other, ¬ Owed channel t other)
    (confirmedJoin channel user session) [] := by
  refine along_call (fun _ => ⟨rfl, by simp [Sent]⟩) fun first => ?_
  have joined : Joined channel [⟨.join channel user session, .ok first⟩] user :=
    ⟨session, first, List.mem_cons_self⟩
  refine along_call (fun _ => joined) fun tracked => ?_
  by_cases here : tracked = some channel
  · subst here
    refine along_call (fun _ => ⟨rfl, by simp [Carries]⟩) fun _ => ?_
    apply along_bind
    · apply resyncLocked_along
      · simp [Locked]
      · exact ⟨session, first, by simp⟩
      · simp [Rotated]
    · rintro _ t ⟨locked, sent, unrotated, only⟩
      apply along_last
      · exact fun _ => ⟨rfl, locked, fun other concerned => absurd concerned.rotated unrotated⟩
      · rintro _ other ⟨unsent, ⟨session', first', called⟩ | concerned⟩
        · have earlier : Joined channel t other := ⟨session', first', by simpa using called⟩
          obtain ⟨_, _, mine⟩ := only other earlier
          obtain rfl : other = user := by
            simp at mine
            exact mine.1.1
          obtain ⟨conns, hub, key, pushed⟩ := sent
          exact unsent ⟨conns, hub, key, List.mem_cons_of_mem _ pushed⟩
        · exact not_concerns_of_unlock List.mem_cons_self concerned
  · refine (missed_along ?_).mono fun _ t missed unmissed => absurd missed unmissed
    exact ⟨_, List.mem_cons_self, here⟩

theorem keeps (cfg : Config) (cmd : ShareCommand) : (discipline channel cfg).Keeps cmd := by
  have ends : ∀ {α : Type} {p : ShareProg α} {f : α → Option ChannelKey},
      Serves channel (fun t => ∀ user, ¬ Owed channel t user) p [] →
        (p >>= fun a => pure (f a)).Along Possible (Rule channel) (fun _ => Close channel) [] :=
    fun along => along.finish fun _ _ ends unmissed => (ends unmissed).2
  cases cmd with
  | rotateAndBroadcast => exact ends rotate_along
  | confirmedJoin user session => exact ends join_along

end Along

/-! ## Interleavings -/

section Scenes

variable (channel : ChannelId) (s : ShareScene)

/-- The conditions of a step: the mutex is free when it is taken, and the session that owns
a participant's seat is connected. -/
def Scheduled (_i : Nat) (_env : Env) : ShareCall → Prop
  | .lock c => c ∉ s.shared.locked
  | .getSessionIdConnections session =>
    s.shared.voice.sessionManager.getSessionIdConnections session ≠ []
  | _ => True

instance (s : ShareScene) (i : Nat) (env : Env) (c : ShareCall) :
    Decidable (Scheduled s i env c) := by
  cases c <;> simp only [Scheduled] <;> infer_instance

/-- The hub service answers. -/
def Resolved (env : Env) : ShareCall → Prop
  | .getChannel c => (env.getChannel c).isSome = true
  | _ => True

instance (env : Env) (c : ShareCall) : Decidable (Resolved env c) := by
  cases c <;> simp only [Resolved] <;> infer_instance

def Can (i : Nat) (env : Env) (c : ShareCall) : Prop :=
  Scheduled s i env c ∧ Resolved env c
deriving Decidable

variable (user : UserId)

def Tracked : Prop :=
  s.shared.voice.sessions.userChannel user = some channel
deriving Decidable

/-- The channel's current key and index. -/
def currentKey : Option ChannelKey := s.shared.voice.keys.getKey channel

/-- The key an event pushes to the user. -/
def pushes :
    Event ShareCall ShareCall.Answer Unit ShareCommand (Option ChannelKey) → Option ChannelKey
  | .called _ (.emit (.keyUpdate _ _ c u key)) _ => if c = channel ∧ u = user then some key else none
  | _ => none

/-- The last `VOICE_KEY_UPDATE` of the channel that was pushed to the user. -/
def lastUpdate : Option ChannelKey :=
  s.history.findSome? (pushes channel user)

/-- The last update of every participant is the channel's key, and everybody who has joined,
or was there when a key was drawn, has had one. -/
structure Converged (s : ShareScene) : Prop where
  latest : ∀ user key, Tracked channel s user → lastUpdate channel s user = some key →
    currentKey channel s = some key
  joined : ∀ i user, Joined channel (s.transcript i) user → lastUpdate channel s user ≠ none
  rotated : ∀ i user, Rotated channel (s.transcript i) → Tracked channel s user →
    lastUpdate channel s user ≠ none

/-- Nothing has happened to the participant. -/
structure Untouched (s : ShareScene) (user : UserId) : Prop where
  unpushed : lastUpdate channel s user = none
  unjoined : ∀ i, ¬ Joined channel (s.transcript i) user
  unrotated : ∀ i, ¬ Rotated channel (s.transcript i)

/-- A task that is still running has a key to push to the user. -/
def Owes : Prop :=
  ∃ i, ¬ s.Returned i (fun _ => true) ∧ Owed channel (s.transcript i) user

/-- The user has the current key, or is owed it, or nothing has happened to them at all. -/
def Served : Prop :=
  lastUpdate channel s user = currentKey channel s ∨ Untouched channel s user ∨ Owes channel s user

structure Inv (s : ShareScene) : Prop where
  present : currentKey channel s ≠ none
  clean : ∀ i, ¬ Missed channel (s.transcript i)
  held : ∀ i, Locked channel (s.transcript i) → channel ∈ s.shared.locked
  alone : ∀ i j, Locked channel (s.transcript i) → Locked channel (s.transcript j) → i = j
  current : ∀ i key, Locked channel (s.transcript i) → Carries channel (s.transcript i) key →
    currentKey channel s = some key
  seated : ∀ i user, Listed channel (s.transcript i) user ∨ Joined channel (s.transcript i) user →
    Tracked channel s user
  served : ∀ user, Tracked channel s user → Served channel s user

end Scenes

section Steps

variable {cfg : Config} {channel : ChannelId} {s : ShareScene} {i : Nat} {env : Env} {c : ShareCall}

/-- A user stays where they are tracked; only a join adds one. -/
theorem tracked_exec (duty : Duty channel (s.transcript i) c) (user : UserId) :
    (exec cfg env s.shared c).2.voice.sessions.userChannel user = some channel ↔
      Tracked channel s user ∨ ∃ session, c = .join channel user session := by
  cases c with
  | join c' joiner session =>
    obtain ⟨rfl, -⟩ := duty
    change (s.shared.voice.sessions.join c' joiner session).2.userChannel user = _ ↔ _
    rw [VoiceSessionManager.userChannel, VoiceSessionManager.voiceState_join]
    by_cases mine : user = joiner
    · subst mine
      simp
    · rw [if_neg mine]
      constructor
      · exact .inl
      · rintro (tracked | ⟨other, is⟩)
        · exact tracked
        · cases is
          exact absurd rfl mine
  | rotateKey c' => simp [exec, Tracked, VoiceState.rotateKey, VoiceState.drawKey]
  | _ => simp [exec, Tracked, VoiceState.onKeys, VoiceState.emit]

/-- The key changes only when one is drawn. -/
theorem key_exec (env : Env) (nonempty : ∀ n, cfg.generateKey n ≠ some "")
    (duty : Duty channel (s.transcript i) c) :
    (exec cfg env s.shared c).2.voice.keys.getKey channel = currentKey channel s ∧
        (∀ key, ¬ (⟨c, (exec cfg env s.shared c).1⟩ : ShareEntry) =
          ⟨.rotateKey channel, .ok (some key)⟩) ∨
      ∃ key, (⟨c, (exec cfg env s.shared c).1⟩ : ShareEntry) =
          ⟨.rotateKey channel, .ok (some key)⟩ ∧
        (exec cfg env s.shared c).2.voice.keys.getKey channel = some key := by
  cases c with
  | rotateKey c' =>
    obtain ⟨rfl, -⟩ := duty
    obtain ⟨failed, kept⟩ | ⟨key, -, drawn, found⟩ :
        ((s.shared.voice.rotateKey cfg c').1 = none ∧
          (s.shared.voice.rotateKey cfg c').2.keys = s.shared.voice.keys.touch c') ∨
        ∃ key : ChannelKey, key.key ≠ "" ∧ (s.shared.voice.rotateKey cfg c').1 = some key ∧
          (s.shared.voice.rotateKey cfg c').2.keys.getKey c' = some key :=
      KeyRaces.drawKey_cases nonempty _
    · left
      constructor
      · change (s.shared.voice.rotateKey cfg c').2.keys.getKey c' = _
        rw [kept, KeyRaces.getKey_touch]
        rfl
      · intro key is
        obtain ⟨-, answer⟩ := Sigma.mk.inj is
        have answer := eq_of_heq answer
        change Except.ok (s.shared.voice.rotateKey cfg c').1 = _ at answer
        rw [failed] at answer
        cases answer
    · right
      refine ⟨key, ?_, found⟩
      change (⟨.rotateKey c', .ok (s.shared.voice.rotateKey cfg c').1⟩ : ShareEntry) = _
      rw [drawn]
  | persistToStorage c' key =>
    left
    refine ⟨VoiceState.getKey_persistToStorage, fun key is => ?_⟩
    cases is
  | _ =>
    left
    refine ⟨rfl, fun key is => ?_⟩
    cases is

/-- The scene after a call. -/
abbrev after (cfg : Config) (s : ShareScene) (i : Nat) (env : Env) (c : ShareCall) : ShareScene :=
  s.log (.called i c (exec cfg env s.shared c).1) (exec cfg env s.shared c).2

/-- Every call of a task that does its duty is answered. -/
theorem Inv.answered (inv : Inv channel s) (can : Can s i env c)
    (duty : Duty channel (s.transcript i) c) :
    ¬ Misses channel ⟨c, (exec cfg env s.shared c).1⟩ := by
  obtain ⟨scheduled, resolved⟩ := can
  cases c with
  | userChannel user => exact fun misses => misses (inv.seated i user (.inr duty))
  | getKey c' =>
    obtain ⟨rfl, -⟩ := duty
    obtain ⟨key, found⟩ := Option.ne_none_iff_exists'.mp inv.present
    change ¬ Misses c' ⟨.getKey c', .ok (currentKey c' s)⟩
    rw [found]
    exact id
  | getChannel c' =>
    obtain ⟨info, found⟩ := Option.isSome_iff_exists.mp resolved
    rw [exec, found]
    exact id
  | userSession user =>
    obtain ⟨owner, seated⟩ := VoiceSessionManager.userChannel_eq_some.mp (inv.seated i user duty)
    rw [exec, VoiceSessionManager.userSession, seated]
    exact id
  | getSessionIdConnections session =>
    obtain ⟨conn, conns, found⟩ := List.exists_cons_of_ne_nil scheduled
    rw [exec, found]
    exact id
  | _ => exact id

theorem Inv.clean_call (inv : Inv channel s) (can : Can s i env c)
    (duty : Duty channel (s.transcript i) c) (j : Nat) :
    ¬ Missed channel ((after cfg s i env c).transcript j) := by
  rintro ⟨entry, listed, misses⟩
  rcases Scene.mem_transcript_log.mp listed with ⟨-, rfl⟩ | earlier
  · exact inv.answered can duty misses
  · exact inv.clean j ⟨entry, earlier, misses⟩

/-- A task holds the mutex if it did before or has just taken it. -/
theorem locked_call (locked : Locked channel ((after cfg s i env c).transcript j)) :
    Locked channel (s.transcript j) ∨ (i = j ∧ c = .lock channel) := by
  obtain ⟨taken, held⟩ := locked
  rcases Scene.mem_transcript_log.mp taken with ⟨mine, is⟩ | earlier
  · obtain ⟨rfl, -⟩ := Sigma.mk.inj is
    exact .inr ⟨mine, rfl⟩
  · exact .inl ⟨earlier, fun free => held (Scene.mem_transcript_log.mpr (.inr free))⟩

section

variable (inv : Inv channel s)

include inv

/-- Nobody holds the mutex once it is given back. -/
theorem Inv.unlock_call (duty : Duty channel (s.transcript i) (.unlock channel)) (j : Nat) :
    ¬ Locked channel ((after cfg s i env (.unlock channel)).transcript j) := by
  intro locked
  rcases locked_call locked with before | ⟨-, is⟩
  · obtain rfl := inv.alone j i before duty.2.1
    exact locked.2 (Scene.mem_transcript_log.mpr (.inl ⟨rfl, rfl⟩))
  · nomatch is

theorem Inv.held_call (duty : Duty channel (s.transcript i) c) (j : Nat)
    (locked : Locked channel ((after cfg s i env c).transcript j)) :
    channel ∈ (exec cfg env s.shared c).2.locked := by
  rcases locked_call locked with before | ⟨-, rfl⟩
  · have held := inv.held j before
    cases c with
    | lock c' => exact List.mem_cons_of_mem _ held
    | unlock c' =>
      obtain rfl := duty.1
      exact absurd locked (inv.unlock_call duty j)
    | _ => exact held
  · exact List.mem_cons_self

theorem Inv.alone_call (can : Can s i env c) (j k : Nat)
    (one : Locked channel ((after cfg s i env c).transcript j))
    (other : Locked channel ((after cfg s i env c).transcript k)) : j = k := by
  rcases locked_call one with held | ⟨rfl, rfl⟩
  · rcases locked_call other with held' | ⟨rfl, rfl⟩
    · exact inv.alone j k held held'
    · exact absurd (inv.held j held) can.1
  · rcases locked_call other with held | ⟨rfl, -⟩
    · exact absurd (inv.held k held) can.1
    · rfl

/-- The key a task carries under the mutex stays the current one. -/
theorem Inv.current_call (nonempty : ∀ n, cfg.generateKey n ≠ some "")
    (duty : Duty channel (s.transcript i) c) (j : Nat) (key : ChannelKey)
    (locked : Locked channel ((after cfg s i env c).transcript j))
    (carries : Carries channel ((after cfg s i env c).transcript j) key) :
    currentKey channel (after cfg s i env c) = some key := by
  change (exec cfg env s.shared c).2.voice.keys.getKey channel = some key
  -- What the task carries it did before, or it comes with this call.
  have carried : Carries channel (s.transcript j) key ∨
      (i = j ∧ ((⟨c, (exec cfg env s.shared c).1⟩ : ShareEntry) =
        ⟨.getKey channel, .ok (some key)⟩ ∨ (⟨c, (exec cfg env s.shared c).1⟩ : ShareEntry) =
        ⟨.rotateKey channel, .ok (some key)⟩)) := by
    rcases carries with read | drawn
    · rcases Scene.mem_transcript_log.mp read with ⟨mine, is⟩ | earlier
      · exact .inr ⟨mine, .inl is.symm⟩
      · exact .inl (.inl earlier)
    · rcases Scene.mem_transcript_log.mp drawn with ⟨mine, is⟩ | earlier
      · exact .inr ⟨mine, .inr is.symm⟩
      · exact .inl (.inr earlier)
  rcases key_exec env nonempty duty with ⟨same, undrawn⟩ | ⟨drawn, is, found⟩
  · rcases carried with before | ⟨rfl, is | is⟩
    · rcases locked_call locked with held | ⟨rfl, rfl⟩
      · exact same.trans (inv.current j key held before)
      · exact absurd before (duty.2 key)
    · obtain ⟨rfl, answer⟩ := Sigma.mk.inj is
      have answer := eq_of_heq answer
      exact same.trans (Except.ok.inj answer)
    · exact absurd is (undrawn key)
  · obtain ⟨rfl, -⟩ := Sigma.mk.inj is
    rcases carried with before | ⟨rfl, read | drew⟩
    · rcases locked_call locked with held | ⟨-, wrong⟩
      · obtain rfl := inv.alone j i held duty.2.1
        exact absurd before (duty.2.2.1 key)
      · nomatch wrong
    · nomatch (Sigma.mk.inj read).1
    · obtain ⟨-, same⟩ := Sigma.mk.inj (is.symm.trans drew)
      rw [found, Option.some.inj (Except.ok.inj (eq_of_heq same))]

theorem Inv.seated_call (duty : Duty channel (s.transcript i) c) (j : Nat) (user : UserId)
    (known : Listed channel ((after cfg s i env c).transcript j) user ∨
      Joined channel ((after cfg s i env c).transcript j) user) :
    Tracked channel (after cfg s i env c) user := by
  apply (tracked_exec duty user).mpr
  rcases known with ⟨present, listed, named⟩ | ⟨session, first, joined⟩
  · rcases Scene.mem_transcript_log.mp listed with ⟨-, is⟩ | earlier
    · obtain ⟨rfl, answer⟩ := Sigma.mk.inj is
      obtain rfl := Except.ok.inj (eq_of_heq answer)
      obtain ⟨info, here, rfl⟩ := List.mem_map.mp named
      exact .inl (VoiceSessionManager.mem_participantsInChannel.mp ⟨info, here, rfl⟩)
    · exact .inl (inv.seated j user (.inl ⟨present, earlier, named⟩))
  · rcases Scene.mem_transcript_log.mp joined with ⟨-, is⟩ | earlier
    · obtain ⟨rfl, -⟩ := Sigma.mk.inj is
      exact .inr ⟨session, rfl⟩
    · exact .inl (inv.seated j user (.inr ⟨session, first, earlier⟩))

/-! ## Nobody is forgotten -/

/-- A call that neither pushes to the user nor draws a key nor lets them join, and after
which a debt to them is still one. -/
theorem Inv.served_quiet (tracked : Tracked channel s user)
    (unpushed : lastUpdate channel (after cfg s i env c) user = lastUpdate channel s user)
    (same : currentKey channel (after cfg s i env c) = currentKey channel s)
    (unjoined : ∀ session, c ≠ .join channel user session)
    (undrawn : ∀ key, (⟨c, (exec cfg env s.shared c).1⟩ : ShareEntry) ≠
      ⟨.rotateKey channel, .ok (some key)⟩)
    (owed : Owed channel (s.transcript i) user →
      Owed channel (⟨c, (exec cfg env s.shared c).1⟩ :: s.transcript i) user) :
    Served channel (after cfg s i env c) user := by
  rcases inv.served user tracked with told | ⟨none, fresh, undrawn'⟩ | ⟨j, busy, owes⟩
  · left
    rw [unpushed, same, told]
  · refine .inr (.inl ⟨unpushed.trans none, ?_, ?_⟩)
    · rintro j ⟨session, first, joined⟩
      rcases Scene.mem_transcript_log.mp joined with ⟨-, is⟩ | earlier
      · exact unjoined session (Sigma.mk.inj is).1.symm
      · exact fresh j ⟨session, first, earlier⟩
    · rintro j ⟨key, rotated⟩
      rcases Scene.mem_transcript_log.mp rotated with ⟨-, is⟩ | earlier
      · exact undrawn key is.symm
      · exact undrawn' j ⟨key, earlier⟩
  · refine .inr (.inr ⟨j, ?_, ?_⟩)
    · rwa [Scene.returned_log_called]
    · grind

end

theorem lastUpdate_after (user : UserId) :
    lastUpdate channel (after cfg s i env c) user =
      (pushes channel user (.called i c (exec cfg env s.shared c).1)).or
        (lastUpdate channel s user) := by
  rw [lastUpdate, Scene.log_history, List.findSome?_cons]
  cases pushes channel user (.called i c (exec cfg env s.shared c).1) with
  | none | some key => rfl

theorem lastUpdate_quiet (quiet : ∀ effect, c ≠ .emit effect) :
    lastUpdate channel (after cfg s i env c) user = lastUpdate channel s user := by
  cases c with
  | emit effect => exact absurd rfl (quiet effect)
  | _ => rfl

variable {t : ShareTranscript} {user : UserId} {answer : Except Unit c.Answer}

theorem Sent.of_cons (sent : Sent channel (⟨c, answer⟩ :: t) user)
    (quiet : ∀ effect, c ≠ .emit effect) : Sent channel t user := by
  obtain ⟨conns, hub, key, pushed⟩ := sent
  rcases List.mem_cons.mp pushed with is | earlier
  · exact absurd (Sigma.mk.inj is).1.symm (quiet _)
  · exact ⟨conns, hub, key, earlier⟩

theorem Joined.cons (joined : Joined channel t user) : Joined channel (⟨c, answer⟩ :: t) user := by
  obtain ⟨session, first, called⟩ := joined
  exact ⟨session, first, List.mem_cons_of_mem _ called⟩

/-- A rotation goes on concerning a user, unless it ends or lists the participants without
them. -/
theorem Concerns.cons (concerned : Concerns channel t user) (held : c ≠ .unlock channel)
    (listed : ∀ present, (⟨c, answer⟩ : ShareEntry) =
      ⟨.participantsInChannel channel, .ok present⟩ → user ∈ present.map (·.userId)) :
    Concerns channel (⟨c, answer⟩ :: t) user := by
  obtain ⟨⟨key, rotated⟩, locked, listed'⟩ := concerned
  refine ⟨⟨key, List.mem_cons_of_mem _ rotated⟩, fun unlocked => ?_, fun present called => ?_⟩
  · grind
  · grind

theorem Owed.cons (owed : Owed channel t user) (quiet : ∀ effect, c ≠ .emit effect)
    (held : c ≠ .unlock channel)
    (listed : ∀ present, (⟨c, answer⟩ : ShareEntry) =
      ⟨.participantsInChannel channel, .ok present⟩ → user ∈ present.map (·.userId)) :
    Owed channel (⟨c, answer⟩ :: t) user := by
  obtain ⟨unsent, why⟩ := owed
  refine ⟨fun sent => unsent (sent.of_cons quiet), ?_⟩
  rcases why with joined | concerned
  · exact .inl joined.cons
  · exact .inr (concerned.cons held listed)

/-- A user who joins is owed the key. -/
theorem owes_join (running : ¬ s.Returned i fun _ => true)
    (duty : Duty channel (s.transcript i) (.join channel user session)) :
    Owes channel (after cfg s i env (.join channel user session)) user := by
  refine ⟨i, by rwa [Scene.returned_log_called], ?_⟩
  rw [Scene.transcript_log_called, if_pos rfl]
  exact ⟨fun sent => duty.2 (sent.of_cons nofun), .inl ⟨session, _, List.mem_cons_self⟩⟩

/-- A key that is drawn is owed to everybody. -/
theorem owes_rotateKey (running : ¬ s.Returned i fun _ => true)
    (duty : Duty channel (s.transcript i) (.rotateKey channel))
    (drawn : (exec cfg env s.shared (.rotateKey channel)).1 = .ok (some key)) :
    Owes channel (after cfg s i env (.rotateKey channel)) user := by
  obtain ⟨-, locked, -, unsent, unlisted⟩ := duty
  refine ⟨i, by rwa [Scene.returned_log_called], ?_⟩
  rw [Scene.transcript_log_called, if_pos rfl, drawn]
  refine ⟨fun sent => unsent user (sent.of_cons nofun), .inr ⟨⟨key, List.mem_cons_self⟩, ?_, ?_⟩⟩
  · simpa using locked.2
  · grind

/-- The key a task pushes is the current one. -/
theorem Inv.served_emit (inv : Inv channel s)
    (duty : Duty channel (s.transcript i) (.emit effect)) (tracked : Tracked channel s user) :
    Served channel (after cfg s i env (.emit effect)) user := by
  by_cases mine : ∃ conns hub key, effect = .keyUpdate conns hub channel user key
  · obtain ⟨conns, hub, key, rfl⟩ := mine
    obtain ⟨-, locked, carries⟩ := duty _ _ _ _ _ rfl
    left
    rw [lastUpdate_after]
    change (if channel = channel ∧ user = user then some key else none).or _ = currentKey channel s
    rw [if_pos ⟨rfl, rfl⟩, inv.current i key locked carries]
    rfl
  · apply inv.served_quiet tracked
    · rw [lastUpdate_after]
      have silent : pushes channel user (.called i (.emit effect)
          (exec cfg env s.shared (.emit effect)).1) = none := by
        cases effect with
        | keyUpdate conns hub c u key =>
          apply if_neg
          rintro ⟨rfl, rfl⟩
          exact mine ⟨conns, hub, key, rfl⟩
        | _ => rfl
      rw [silent, Option.none_or]
    · rfl
    · exact nofun
    · exact fun key is => nomatch (Sigma.mk.inj is).1
    · rintro ⟨unsent, why⟩
      refine ⟨?_, ?_⟩
      · rintro ⟨conns, hub, key, pushed⟩
        rcases List.mem_cons.mp pushed with is | earlier
        · grind
        · exact unsent ⟨conns, hub, key, earlier⟩
      · rcases why with joined | concerned
        · exact .inl joined.cons
        · exact .inr (concerned.cons nofun fun _ is => absurd (Sigma.mk.inj is).1 nofun)

theorem Inv.served_call (inv : Inv channel s) (nonempty : ∀ n, cfg.generateKey n ≠ some "")
    (running : ¬ s.Returned i fun _ => true) (duty : Duty channel (s.transcript i) c)
    (tracked : Tracked channel (after cfg s i env c) user) :
    Served channel (after cfg s i env c) user := by
  rcases (tracked_exec duty user).mp tracked with before | ⟨session, rfl⟩
  · rcases key_exec env nonempty duty with ⟨same, undrawn⟩ | ⟨key, is, -⟩
    · by_cases joins : ∃ session, c = .join channel user session
      · obtain ⟨session, rfl⟩ := joins
        exact Or.inr (Or.inr (owes_join running duty))
      · cases c with
        | emit effect => exact inv.served_emit duty before
        | unlock c' =>
          obtain ⟨rfl, -, told⟩ := duty
          refine inv.served_quiet before (lastUpdate_quiet nofun) same nofun undrawn ?_
          rintro ⟨unsent, joined | concerned⟩
          · exact ⟨fun sent => unsent (sent.of_cons nofun), Or.inl joined.cons⟩
          · exact absurd (told user concerned) unsent
        | participantsInChannel c' =>
          refine inv.served_quiet before (lastUpdate_quiet nofun) same nofun undrawn fun owed => ?_
          refine owed.cons nofun nofun fun present is => ?_
          obtain ⟨there, answer⟩ := Sigma.mk.inj is
          cases there
          obtain rfl := Except.ok.inj (eq_of_heq answer)
          obtain ⟨info, here, mine⟩ := VoiceSessionManager.mem_participantsInChannel.mpr before
          exact List.mem_map.mpr ⟨info, here, mine⟩
        | _ =>
          refine inv.served_quiet before (lastUpdate_quiet nofun) same ?_ undrawn ?_
          · exact fun session is => joins ⟨session, is⟩
          · exact fun owed => owed.cons nofun nofun fun _ is => nomatch (Sigma.mk.inj is).1
    · obtain ⟨rfl, answer⟩ := Sigma.mk.inj is
      exact Or.inr (Or.inr (owes_rotateKey running duty (eq_of_heq answer)))
  · exact Or.inr (Or.inr (owes_join running duty))

end Steps

/-! ## Runs -/

section Runs

variable {cfg : Config} {channel : ChannelId} {s : ShareScene}

section

variable (inv : Inv channel s)

include inv

theorem Inv.call (nonempty : ∀ n, cfg.generateKey n ≠ some "") {env : Env} {c : ShareCall}
    (running : ¬ s.Returned i fun _ => true) (rule : Rule channel (s.transcript i) c)
    (can : Can s i env c) : Inv channel (after cfg s i env c) := by
  have duty := rule (inv.clean i)
  refine ⟨?_, inv.clean_call can duty, inv.held_call duty, inv.alone_call can,
    inv.current_call nonempty duty, inv.seated_call duty,
    fun user tracked => inv.served_call nonempty running duty tracked⟩
  change (exec cfg env s.shared c).2.voice.keys.getKey channel ≠ none
  rcases key_exec env nonempty duty with ⟨same, -⟩ | ⟨key, -, found⟩
  · rw [same]
    exact inv.present
  · rw [found]
    exact Option.some_ne_none key

/-- An event that is no call, and after which those who owe a key are still running. -/
theorem Inv.log (quiet : event.Quiet)
    (busy : ∀ j user, Owed channel (s.transcript j) user → ¬ s.Returned j (fun _ => true) →
      ¬ (s.log event s.shared).Returned j fun _ => true) :
    Inv channel (s.log event s.shared) := by
  have same : ∀ j, (s.log event s.shared).transcript j = s.transcript j :=
    fun _ => Scene.transcript_log_quiet quiet
  have unpushed : ∀ user, lastUpdate channel (s.log event s.shared) user =
      lastUpdate channel s user := by
    intro user
    cases event with
    | called => exact quiet.elim
    | began | returned => rfl
  refine ⟨inv.present, ?_, ?_, ?_, ?_, ?_, fun user tracked => ?_⟩
  · simpa only [same] using inv.clean
  · simp only [same]
    exact inv.held
  · simpa only [same] using inv.alone
  · simp only [same]
    exact inv.current
  · simp only [same]
    exact inv.seated
  · rcases inv.served user tracked with told | ⟨none, unjoined, unrotated⟩ | ⟨j, running, owed⟩
    · exact .inl ((unpushed user).trans told)
    · refine .inr (.inl ⟨(unpushed user).trans none, ?_, ?_⟩)
      · simpa only [same] using unjoined
      · simpa only [same] using unrotated
    · refine .inr (.inr ⟨j, busy j user owed running, ?_⟩)
      rwa [same]

theorem Inv.start : Inv channel (s.log (.began i cmd) s.shared) := by
  refine inv.log trivial ?_
  intro j user _ running
  rwa [Scene.returned_log_began]

/-- A task that returns owes nothing. -/
theorem Inv.ends (close : Close channel (s.transcript i)) :
    Inv channel (s.log (.returned i result) s.shared) := by
  refine inv.log trivial ?_
  intro j user owed running returned
  rcases Scene.returned_log_returned.mp returned with ⟨rfl, -⟩ | earlier
  · exact close (inv.clean i) user owed
  · exact running earlier

end

theorem preserves (nonempty : ∀ n, cfg.generateKey n ≠ some "") :
    (discipline channel cfg).Preserves (fun _ _ => True) Can (Inv channel) where
  start := fun _ _ _ inv _ _ => inv.start
  call := fun _ _ _ _ _ inv _ running rule can => inv.call nonempty running rule can
  ends := fun _ _ _ _ inv _ _ close => inv.ends close

theorem inv_idle (present : voice.keys.getKey channel ≠ none) : Inv channel { shared := { voice } } := by
  refine ⟨present, ?_, ?_, ?_, ?_, ?_, ?_⟩
  · rintro i ⟨entry, listed, -⟩
    nomatch listed
  · exact fun i locked => absurd locked.1 List.not_mem_nil
  · exact fun i j locked => absurd locked.1 List.not_mem_nil
  · exact fun i key locked => absurd locked.1 List.not_mem_nil
  · rintro i user (⟨_, listed, -⟩ | ⟨_, _, joined⟩)
    · nomatch listed
    · nomatch joined
  · intro user _
    refine .inr (.inl ⟨rfl, ?_, ?_⟩)
    · rintro i ⟨_, _, joined⟩
      nomatch joined
    · rintro i ⟨_, rotated⟩
      nomatch rotated

/-- When nothing runs, nothing is owed. -/
theorem Inv.converged (inv : Inv channel s)
    (returned : ∀ i user, Owed channel (s.transcript i) user → s.Returned i fun _ => true) :
    Converged channel s := by
  have settled : ∀ user, Tracked channel s user →
      lastUpdate channel s user = currentKey channel s ∨ Untouched channel s user := by
    intro user tracked
    rcases inv.served user tracked with told | untouched | ⟨i, running, owed⟩
    · exact .inl told
    · exact .inr untouched
    · exact absurd (returned i user owed) running
  constructor
  · intro user key tracked pushed
    rcases settled user tracked with told | untouched
    · rw [← told, pushed]
    · rw [untouched.unpushed] at pushed
      nomatch pushed
  · intro i user joined
    rcases settled user (inv.seated i user (.inr joined)) with told | untouched
    · rw [told]
      exact inv.present
    · exact absurd joined (untouched.unjoined i)
  · intro i user rotated tracked
    rcases settled user tracked with told | untouched
    · rw [told]
      exact inv.present
    · exact absurd rotated (untouched.unrotated i)

end Runs

/-- **Rotations and joins converge.**  Any number of rotations and confirmed joins of a channel
that has a key, in any interleaving in which the owner sessions are connected and the lookups
of the channel answer: once all have finished, the last key pushed to each participant is the
channel's. -/
theorem keys_converge (cfg : Config) (channel : ChannelId)
    (nonempty : ∀ n, cfg.generateKey n ≠ some "") (voice : VoiceState)
    (present : voice.keys.getKey channel ≠ none) (moves : List (Lib.Move ShareCommand Env))
    (staged : Staged (Pool.step (machine cfg channel)) (Pool.NextCall Can)
      (Pool.idle { voice }) moves)
    (idle : (run (Pool.step (machine cfg channel)) (Pool.idle { voice }) moves).scene.Idle) :
    Converged channel (run (Pool.step (machine cfg channel)) (Pool.idle { voice }) moves).scene := by
  have inv := (discipline channel cfg).run_inv (fun _ cmd _ => keeps cfg cmd)
    (preserves nonempty) (staged.mono fun _ _ can => can.next fun _ _ => trivial) (inv_idle present)
  apply inv.converged
  intro i user owed
  have called : (run (Pool.step (machine cfg channel)) (Pool.idle { voice }) moves).scene.transcript
      i ≠ [] := by
    intro nothing
    rw [nothing] at owed
    rcases owed with ⟨-, ⟨_, _, joined⟩ | ⟨⟨_, rotated⟩, -, -⟩⟩
    · nomatch joined
    · nomatch rotated
  obtain ⟨event, listed, rfl⟩ := Scene.exists_of_transcript_ne_nil called
  exact idle event listed

/-! ## A lookup that fails -/

namespace Lounge

open VoiceState Sample

/-- Ada is in the lounge; Bob has signed in. -/
def world : VoiceState := run (VoiceState.step cfg) start adaAhead

/-- The hub service does not find the channel. -/
def unresolved : Env := { Sample.env 5 with getChannel := fun _ => none }

def turns (env : Env) (is : List Nat) : List (Lib.Move ShareCommand Env) := is.map fun i => .turn i env

/-- Two rotations; the second does not find the channel. -/
def skipped : List (Lib.Move ShareCommand Env) :=
  [.start .rotateAndBroadcast] ++ turns (Sample.env 5) (List.replicate 10 0) ++
    [.start .rotateAndBroadcast] ++ turns unresolved (List.replicate 10 1)

/-- Bob joins when a rotation has listed the participants. -/
def overlapping : List (Lib.Move ShareCommand Env) :=
  [.start .rotateAndBroadcast, .start (.confirmedJoin bob 2)] ++
    turns (Sample.env 5) ([0, 0, 0, 0, 0, 1, 1] ++ List.replicate 5 0 ++ List.replicate 10 1)

def after (moves : List (Lib.Move ShareCommand Env)) :=
  run (Pool.step (machine cfg lounge)) (Pool.idle { voice := world }) moves

/-- Ada is left with the first rotation's key. -/
theorem skipped_update_is_missed :
    Staged (Pool.step (machine cfg lounge)) (Pool.NextCall Scheduled) (Pool.idle { voice := world })
        skipped ∧
      (after skipped).scene.Idle ∧ Tracked lounge (after skipped).scene ada ∧
      lastUpdate lounge (after skipped).scene ada = some ⟨"kk", 1⟩ ∧
      currentKey lounge (after skipped).scene = some ⟨"kkk", 2⟩ := by
  decide

/-- Bob was not on the rotation's list; his join brings him its key. -/
theorem keys_converge_overlapping :
    lastUpdate lounge (after overlapping).scene ada = some ⟨"kk", 1⟩ ∧
      lastUpdate lounge (after overlapping).scene bob = some ⟨"kk", 1⟩ ∧
      Converged lounge (after overlapping).scene := by
  refine ⟨by decide, by decide, ?_⟩
  apply keys_converge cfg lounge _ world (by decide) overlapping (by decide) (by decide)
  intro n same
  have := congrArg String.length (Option.some.inj same)
  simp [drawn] at this

end Lounge

end KeyConvergence

end Kergit
