import Kergit.Lib.Maps
import Kergit.Ids

/-!
`VoiceSessionManager`: who is in which voice channel, owned by which session.

Two maps again, and again kept in step by hand: `channels_` from channel to its
participants, `user_to_channel_` from user to channel and owner.  `VoiceTables`
is the record with the operations as the source writes them;
`VoiceTables.Consistent` says that a user is listed in a channel exactly when the
user is mapped to it and that no empty participant map is kept; and
`VoiceSessionManager` carries that proof.

Downstream, membership is one function, `voiceState : UserId → Option
UserVoiceState`.  The lemmas at the end say what each operation does to it, and
what `is_empty`, `leave`'s answer and the channel listings mean in its terms.
-/

namespace Kergit

open Lib

structure ParticipantState where
  muted : Bool := false
  deafened : Bool := false
deriving DecidableEq, Repr

structure UserVoiceState where
  channel : ChannelId
  ownerSession : Nat
deriving DecidableEq, Repr

structure ParticipantInfo where
  userId : UserId
  muted : Bool
  deafened : Bool
deriving DecidableEq, Repr

structure VoiceTables where
  channels : Map ChannelId (Map UserId ParticipantState) := ∅
  userToChannel : Map UserId UserVoiceState := ∅

namespace VoiceTables

section

variable (t : VoiceTables) (channel : ChannelId)

def participants : Map UserId ParticipantState :=
  Map.inner t.channels channel

/-- Store a channel's participants, dropping the entry once nobody is left. -/
def setParticipants (present : Map UserId ParticipantState) : VoiceTables :=
  { t with channels := Map.setInner t.channels channel present }

def isEmpty : Bool := Map.isEmpty (t.participants channel)

variable (user : UserId)

/-- The state a user carries into a channel: mute and deafen survive only when
the same app session switches channels. -/
def carryState (session : Nat) : ParticipantState :=
  match t.userToChannel.lookup user with
  | none => {}
  | some st =>
    if st.ownerSession = session then ((t.participants st.channel).lookup user).getD {} else {}

-- `join`, the block that takes the user out of the old channel.
def withoutOld : VoiceTables :=
  match t.userToChannel.lookup user with
  | none => t
  | some st => t.setParticipants st.channel ((t.participants st.channel).erase user)

-- `VoiceSessionManager::join`; the answer is `was_empty`.
def join (session : Nat) : Bool × VoiceTables :=
  let carry := t.carryState user session
  let t := t.withoutOld user
  let present := t.participants channel
  -- `emplace` keeps a present entry.
  let joined := if user ∈ present then present else present.insert user carry
  (Map.isEmpty present,
    { channels := t.channels.insert channel joined
      userToChannel := t.userToChannel.insert user ⟨channel, session⟩ })

-- `leave`, from `channels_.find(channel)` on; the answer is
-- `became_empty`.
def dropParticipant : Bool × VoiceTables :=
  match t.channels.lookup channel with
  | none => (false, t)
  | some present =>
    (Map.isEmpty (present.erase user), t.setParticipants channel (present.erase user))

-- `VoiceSessionManager::leave`.  A leave for a channel the user has
-- moved out of is ignored.
def leave : Bool × VoiceTables :=
  match t.userToChannel.lookup user with
  | none => t.dropParticipant channel user
  | some st =>
    if st.channel ≠ channel then (false, t)
    else { t with userToChannel := t.userToChannel.erase user }.dropParticipant channel user

/-- Rewrite the flags of a tracked user. -/
def updateParticipant (change : ParticipantState → ParticipantState) : Bool × VoiceTables :=
  match t.userToChannel.lookup user with
  | none => (false, t)
  | some st =>
    match t.channels.lookup st.channel with
    | none => (false, t)
    | some present =>
      match present.lookup user with
      | none => (false, t)
      | some flags =>
        if change flags = flags then (false, t)
        else (true, { t with
          channels := t.channels.insert st.channel (present.insert user (change flags)) })

-- `set_muted`, `set_deafened`; deafening also mutes, and undeafening
-- unmutes.
def setMuted (muted : Bool) : Bool × VoiceTables :=
  t.updateParticipant user fun flags => { flags with muted }

def setDeafened (deafened : Bool) : Bool × VoiceTables :=
  t.updateParticipant user fun _ => { deafened, muted := deafened }

-- `transfer_owner_session`, a compare-and-set on the owner.
def transferOwnerSession (expected next : Nat) : Bool × VoiceTables :=
  match t.userToChannel.lookup user with
  | none => (false, t)
  | some st =>
    if st.ownerSession ≠ expected then (false, t)
    else (true, { t with
      userToChannel := t.userToChannel.insert user { st with ownerSession := next } })

end

def forget (channel : ChannelId) (owners : Map UserId UserVoiceState) (user : UserId) :
    Map UserId UserVoiceState :=
  match owners.lookup user with
  | none => owners
  | some st => if st.channel = channel then owners.erase user else owners

section

variable (t : VoiceTables)

-- `VoiceSessionManager::clear_channel`; the answer lists who was
-- removed.
def clearChannel (channel : ChannelId) : List UserId × VoiceTables :=
  match t.channels.lookup channel with
  | none => ([], t)
  | some present =>
    (present.keys,
      { channels := t.channels.erase channel
        userToChannel := present.keys.foldl (forget channel) t.userToChannel })

def participantsInChannel (channel : ChannelId) : List ParticipantInfo :=
  (t.participants channel).entries.map fun entry => ⟨entry.1, entry.2.muted, entry.2.deafened⟩

def usersInChannel (channel : ChannelId) : List UserId :=
  (t.participants channel).keys

def activeChannels : List ChannelId := t.channels.keys

end

/-- Both maps say the same, and no channel keeps an empty participant map. -/
structure Consistent (t : VoiceTables) : Prop where
  listed_iff : ∀ channel user, user ∈ t.participants channel ↔
    ∃ owner, t.userToChannel.lookup user = some ⟨channel, owner⟩
  occupied : Map.NoEmptyRows t.channels

variable {t : VoiceTables} {channel d : ChannelId} {user v : UserId} {session : Nat}

theorem consistent_empty : Consistent {} := by
  constructor <;> simp [participants, Map.inner, Map.NoEmptyRows]

theorem participants_setParticipants (t : VoiceTables) (channel d : ChannelId)
    (present : Map UserId ParticipantState) :
    (t.setParticipants channel present).participants d =
      if d = channel then present else t.participants d :=
  Map.inner_setInner _ _ _ _

private theorem withoutOld_userToChannel : (t.withoutOld user).userToChannel = t.userToChannel := by
  unfold withoutOld
  split <;> rfl

private theorem mem_withoutOld (ok : t.Consistent) :
    v ∈ (t.withoutOld user).participants d ↔ v ≠ user ∧ v ∈ t.participants d := by
  unfold withoutOld
  cases found : t.userToChannel.lookup user with
  | none =>
    have absent : user ∉ t.participants d := by
      rw [ok.listed_iff, found]
      simp
    grind
  | some st =>
    rw [participants_setParticipants]
    split
    · rename_i here
      rw [AList.mem_erase, here]
    · rename_i elsewhere
      have absent : user ∉ t.participants d := by
        rw [ok.listed_iff, found]
        rintro ⟨owner, same⟩
        exact elsewhere (by rw [Option.some.inj same])
      grind

theorem mem_join (ok : t.Consistent) :
    v ∈ (t.join channel user session).2.participants d ↔
      (v = user ∧ d = channel) ∨ (v ≠ user ∧ v ∈ t.participants d) := by
  have absent : user ∉ (t.withoutOld user).participants channel := by
    rw [mem_withoutOld ok]
    simp
  simp [join]
  rw [participants, Map.inner_insert]
  split
  · rename_i here
    subst here
    rw [AList.mem_insert, mem_withoutOld ok]
    tauto
  · change v ∈ (t.withoutOld user).participants d ↔ _
    rw [mem_withoutOld ok]
    tauto

theorem join_userToChannel (t : VoiceTables) (channel : ChannelId) (user : UserId) (session : Nat) :
    (t.join channel user session).2.userToChannel = t.userToChannel.insert user ⟨channel, session⟩ := by
  simp only [join, withoutOld_userToChannel]

theorem join_consistent (ok : t.Consistent) : (t.join channel user session).2.Consistent where
  listed_iff d v := by
    rw [mem_join ok, join_userToChannel, Map.lookup_insert_if]
    split
    · rename_i same
      simp [same, UserVoiceState.mk.injEq]
      exact eq_comm
    · rename_i differ
      simp [differ, ok.listed_iff]
  occupied d present := by
    simp only [join, Map.lookup_insert_if]
    split
    · rintro ⟨⟩
      rw [Map.isEmpty_eq_false_iff]
      split
      · exact ⟨user, by assumption⟩
      · exact ⟨user, by simp⟩
    · intro found
      unfold withoutOld at found
      split at found
      · exact ok.occupied d present found
      · exact ok.occupied.setInner _ _ d present found

private theorem listed_row (listed : user ∈ t.participants channel) :
    t.channels.lookup channel = some (t.participants channel) := by
  cases found : t.channels.lookup channel with
  | none => simp [participants, Map.inner, found] at listed
  | some present => simp [participants, Map.inner, found]

section

variable (ok : t.Consistent)

include ok

/-- A leave of a member, as one equation. -/
theorem leave_member (tracked : t.userToChannel.lookup user = some ⟨channel, owner⟩) :
    t.leave channel user =
      (Map.isEmpty ((t.participants channel).erase user),
        { t with userToChannel := t.userToChannel.erase user }.setParticipants channel
          ((t.participants channel).erase user)) := by
  have row := listed_row ((ok.listed_iff channel user).mpr ⟨owner, tracked⟩)
  simp [leave, tracked, dropParticipant, row]

/-- A leave for a channel the user is not in answers no and changes nothing. -/
theorem leave_stranger (absent : ∀ owner, t.userToChannel.lookup user ≠ some ⟨channel, owner⟩) :
    (t.leave channel user).1 = false ∧
      (t.leave channel user).2.userToChannel = t.userToChannel ∧
      ∀ d, (t.leave channel user).2.channels.lookup d = t.channels.lookup d := by
  unfold leave
  cases tracked : t.userToChannel.lookup user with
  | some st =>
    have : st.channel ≠ channel := by
      rintro rfl
      exact absent st.ownerSession tracked
    simp [this]
  | none =>
    simp only [dropParticipant]
    cases found : t.channels.lookup channel with
    | none => simp
    | some present =>
      have unlisted : user ∉ present := by
        intro listed
        have : user ∈ t.participants channel := by simpa [participants, Map.inner, found] using listed
        obtain ⟨owner, here⟩ := (ok.listed_iff _ _).mp this
        exact absent owner here
      have same : present.erase user = present :=
        Map.erase_absent _ _ (AList.lookup_eq_none.mpr unlisted)
      have kept := ok.occupied channel present found
      simp only [same, setParticipants, Map.setInner]
      grind

/-- Consistency only reads lookups. -/
private theorem Consistent.of_lookup {t' : VoiceTables}
    (owners : t'.userToChannel = t.userToChannel)
    (rows : ∀ d, t'.channels.lookup d = t.channels.lookup d) : t'.Consistent where
  listed_iff d v := by
    rw [owners, participants, Map.inner, rows]
    exact ok.listed_iff d v
  occupied d present found := ok.occupied d present (rows d ▸ found)

theorem leave_consistent : (t.leave channel user).2.Consistent := by
  by_cases member : ∃ owner, t.userToChannel.lookup user = some ⟨channel, owner⟩
  · obtain ⟨owner, tracked⟩ := member
    rw [leave_member ok tracked]
    constructor
    · intro d v
      rw [participants_setParticipants]
      simp only [setParticipants, Map.lookup_erase_if]
      by_cases same : v = user
      · subst same
        simp
        split
        · simp
        · change v ∉ t.participants d
          rw [ok.listed_iff, tracked]
          grind
      · simp [same, ← ok.listed_iff]
        split
        · rename_i here
          simp [same, here]
        · rfl
    · exact ok.occupied.setInner _ _
  · obtain ⟨-, owners, rows⟩ := leave_stranger ok (fun owner tracked => member ⟨owner, tracked⟩)
    exact ok.of_lookup owners rows

end

theorem updateParticipant_userToChannel (change : ParticipantState → ParticipantState) :
    (t.updateParticipant user change).2.userToChannel = t.userToChannel := by
  unfold updateParticipant
  repeat' split
  all_goals rfl

theorem mem_updateParticipant (change : ParticipantState → ParticipantState) :
    v ∈ (t.updateParticipant user change).2.participants d ↔ v ∈ t.participants d := by
  unfold updateParticipant
  split
  · rfl
  · split
    · rfl
    · rename_i present found
      split
      · rfl
      · rename_i flags listed
        split
        · rfl
        · simp only [participants, Map.inner_insert]
          split
          · rename_i here
            subst here
            simp only [Map.inner, found, Option.getD_some, AList.mem_insert, or_iff_right_iff_imp]
            rintro rfl
            exact (Map.mem_iff_lookup _ _).mpr ⟨flags, listed⟩
          · rfl

theorem updateParticipant_consistent (ok : t.Consistent)
    (change : ParticipantState → ParticipantState) :
    (t.updateParticipant user change).2.Consistent where
  listed_iff d v := by
    rw [mem_updateParticipant, updateParticipant_userToChannel]
    exact ok.listed_iff d v
  occupied d present := by
    unfold updateParticipant
    split
    · exact ok.occupied d present
    · split
      · exact ok.occupied d present
      · split
        · exact ok.occupied d present
        · split
          · exact ok.occupied d present
          · simp only [Map.lookup_insert_if]
            split
            · rintro ⟨⟩
              rw [Map.isEmpty_eq_false_iff]
              exact ⟨user, by simp⟩
            · exact ok.occupied d present

theorem transferOwnerSession_consistent (ok : t.Consistent) (expected next : Nat) :
    (t.transferOwnerSession user expected next).2.Consistent := by
  unfold transferOwnerSession
  split
  · exact ok
  · rename_i st found
    split
    · exact ok
    · refine ⟨fun d v => ?_, ok.occupied⟩
      change v ∈ t.participants d ↔ _
      rw [ok.listed_iff, Map.lookup_insert_if]
      split
      · rename_i same
        subst same
        rw [found]
        obtain ⟨channel, owner⟩ := st
        simp
      · rfl

private theorem lookup_forget (owners : Map UserId UserVoiceState) :
    (forget channel owners user).lookup v =
      if v = user ∧ (owners.lookup user).map (·.channel) = some channel then none
      else owners.lookup v := by
  unfold forget
  grind

private theorem lookup_forget_all (users : List UserId) (owners : Map UserId UserVoiceState) :
    (users.foldl (forget channel) owners).lookup v =
      if v ∈ users ∧ (owners.lookup v).map (·.channel) = some channel then none
      else owners.lookup v := by
  induction users generalizing owners with
  | nil => simp
  | cons user rest ih =>
    rw [List.foldl_cons, ih, lookup_forget]
    grind

/-- Clearing a channel unmaps exactly its members and returns them. -/
theorem clearChannel_spec (ok : t.Consistent) (channel : ChannelId) :
    (∀ v, v ∈ (t.clearChannel channel).1 ↔ v ∈ t.participants channel) ∧
      (∀ v, (t.clearChannel channel).2.userToChannel.lookup v =
        if v ∈ t.participants channel then none else t.userToChannel.lookup v) ∧
      ∀ d, (t.clearChannel channel).2.channels.lookup d =
        if d = channel then none else t.channels.lookup d := by
  unfold clearChannel
  cases found : t.channels.lookup channel with
  | none =>
    have nobody : t.participants channel = ∅ := by simp [participants, Map.inner, found]
    refine ⟨fun v => by simp [nobody], fun v => by simp [nobody], fun d => ?_⟩
    by_cases here : d = channel
    · subst here
      simp [found]
    · simp [here]
  | some present =>
    have here : t.participants channel = present := by simp [participants, Map.inner, found]
    rw [here]
    refine ⟨fun v => AList.mem_keys.symm, fun v => ?_, fun d => Map.lookup_erase_if _ _ _⟩
    rw [lookup_forget_all]
    refine if_congr ?_ rfl rfl
    rw [← here]
    refine and_iff_left_of_imp fun listed => ?_
    obtain ⟨owner, tracked⟩ := (ok.listed_iff _ _).mp listed
    rw [tracked]
    rfl

theorem clearChannel_consistent (ok : t.Consistent) : (t.clearChannel channel).2.Consistent := by
  obtain ⟨-, owners, rows⟩ := clearChannel_spec ok channel
  constructor
  · intro d v
    rw [owners, participants, Map.inner, rows]
    by_cases here : d = channel
    · subst here
      simp only [if_true, Option.getD_none, AList.notMem_empty, false_iff, not_exists]
      intro owner
      split
      · simp
      · rename_i unlisted
        intro tracked
        exact unlisted ((ok.listed_iff _ _).mpr ⟨owner, tracked⟩)
    · rw [if_neg here]
      change v ∈ t.participants d ↔ _
      rw [ok.listed_iff]
      split
      · rename_i listed
        obtain ⟨owner, tracked⟩ := (ok.listed_iff _ _).mp listed
        grind
      · rfl
  · intro d present found
    rw [rows] at found
    split at found
    · cases found
    · exact ok.occupied d present found

end VoiceTables

/-- The manager: the two maps, with the proof that they agree. -/
structure VoiceSessionManager where
  tables : VoiceTables
  consistent : tables.Consistent

namespace VoiceSessionManager

open VoiceTables

def empty : VoiceSessionManager := ⟨{}, consistent_empty⟩

variable (m : VoiceSessionManager) (channel : ChannelId) (user : UserId)

def join (session : Nat) : Bool × VoiceSessionManager :=
  ((m.tables.join channel user session).1,
    ⟨(m.tables.join channel user session).2, join_consistent m.consistent⟩)

def leave : Bool × VoiceSessionManager :=
  ((m.tables.leave channel user).1,
    ⟨(m.tables.leave channel user).2, leave_consistent m.consistent⟩)

def setMuted (muted : Bool) : Bool × VoiceSessionManager :=
  ((m.tables.setMuted user muted).1,
    ⟨(m.tables.setMuted user muted).2, updateParticipant_consistent m.consistent _⟩)

def setDeafened (deafened : Bool) : Bool × VoiceSessionManager :=
  ((m.tables.setDeafened user deafened).1,
    ⟨(m.tables.setDeafened user deafened).2, updateParticipant_consistent m.consistent _⟩)

def transferOwnerSession (expected next : Nat) : Bool × VoiceSessionManager :=
  ((m.tables.transferOwnerSession user expected next).1,
    ⟨(m.tables.transferOwnerSession user expected next).2,
      transferOwnerSession_consistent m.consistent expected next⟩)

def clearChannel : List UserId × VoiceSessionManager :=
  ((m.tables.clearChannel channel).1,
    ⟨(m.tables.clearChannel channel).2, clearChannel_consistent m.consistent⟩)

/-- Where a user is and which session owns the seat. -/
def voiceState : Option UserVoiceState :=
  m.tables.userToChannel.lookup user

def userChannel : Option ChannelId :=
  (m.voiceState user).map (·.channel)

def userSession : Option Nat :=
  (m.voiceState user).map (·.ownerSession)

def isEmpty : Bool := m.tables.isEmpty channel

def participantsInChannel : List ParticipantInfo :=
  m.tables.participantsInChannel channel

def usersInChannel : List UserId :=
  m.tables.usersInChannel channel

def activeChannels : List ChannelId := m.tables.activeChannels

variable {m : VoiceSessionManager} {channel : ChannelId} {user v : UserId} {session : Nat}

theorem userChannel_eq_some :
    m.userChannel user = some channel ↔ ∃ owner, m.voiceState user = some ⟨channel, owner⟩ := by
  rw [userChannel, Option.map_eq_some_iff]
  constructor
  · rintro ⟨⟨_, owner⟩, found, rfl⟩
    exact ⟨owner, found⟩
  · rintro ⟨owner, found⟩
    exact ⟨_, found, rfl⟩

theorem mem_participants :
    user ∈ m.tables.participants channel ↔ m.userChannel user = some channel := by
  rw [m.consistent.listed_iff, userChannel_eq_some]
  rfl

@[grind =] theorem mem_usersInChannel :
    user ∈ m.usersInChannel channel ↔ m.userChannel user = some channel := by
  rw [← mem_participants]
  rfl

theorem mem_participantsInChannel :
    (∃ info ∈ m.participantsInChannel channel, info.userId = user) ↔
      m.userChannel user = some channel := by
  rw [← mem_usersInChannel]
  simp [participantsInChannel, VoiceTables.participantsInChannel, usersInChannel,
    VoiceTables.usersInChannel, AList.keys, List.mem_keys]

@[grind =] theorem isEmpty_iff :
    m.isEmpty channel = true ↔ ∀ user, m.userChannel user ≠ some channel := by
  rw [isEmpty, VoiceTables.isEmpty, ← Bool.not_eq_false, Map.isEmpty_eq_false_iff, not_exists]
  exact forall_congr' fun user => not_congr mem_participants

@[simp] theorem voiceState_empty : empty.voiceState user = none := rfl

@[grind =] theorem voiceState_join :
    (m.join channel user session).2.voiceState v =
      if v = user then some ⟨channel, session⟩ else m.voiceState v := by
  rw [voiceState, join, join_userToChannel, Map.lookup_insert_if]
  rfl

@[grind =] theorem voiceState_leave :
    (m.leave channel user).2.voiceState v =
      if v = user ∧ m.userChannel user = some channel then none else m.voiceState v := by
  by_cases member : m.userChannel user = some channel
  · obtain ⟨owner, tracked⟩ := userChannel_eq_some.mp member
    simp only [member, and_true, voiceState, leave, leave_member m.consistent tracked,
      VoiceTables.setParticipants, Map.lookup_erase_if]
  · have absent : ∀ owner, m.tables.userToChannel.lookup user ≠ some ⟨channel, owner⟩ :=
      fun owner tracked => member (userChannel_eq_some.mpr ⟨owner, tracked⟩)
    rw [if_neg (fun both => member both.2), voiceState, leave,
      (leave_stranger m.consistent absent).2.1]
    rfl

@[grind =] theorem userChannel_leave :
    (m.leave channel user).2.userChannel v =
      if v = user ∧ m.userChannel user = some channel then none else m.userChannel v := by
  rw [userChannel, voiceState_leave, apply_ite (Option.map UserVoiceState.channel)]
  rfl

/-- `leave` answers yes exactly when it took the channel's last member. -/
theorem leave_emptied_iff :
    (m.leave channel user).1 = true ↔
      m.userChannel user = some channel ∧ ∀ v, m.userChannel v = some channel → v = user := by
  by_cases member : m.userChannel user = some channel
  · obtain ⟨owner, tracked⟩ := userChannel_eq_some.mp member
    simp [leave, leave_member m.consistent tracked]
    rw [← Bool.not_eq_false, Map.isEmpty_eq_false_iff]
    simp [mem_participants]
    grind
  · have absent : ∀ owner, m.tables.userToChannel.lookup user ≠ some ⟨channel, owner⟩ :=
      fun owner tracked => member (userChannel_eq_some.mpr ⟨owner, tracked⟩)
    simp [leave, (leave_stranger m.consistent absent).1, member]

@[simp] theorem voiceState_setMuted (muted : Bool) :
    (m.setMuted user muted).2.voiceState v = m.voiceState v := by
  change (m.tables.updateParticipant user _).2.userToChannel.lookup v = _
  rw [updateParticipant_userToChannel]
  rfl

@[simp] theorem voiceState_setDeafened (deafened : Bool) :
    (m.setDeafened user deafened).2.voiceState v = m.voiceState v := by
  change (m.tables.updateParticipant user _).2.userToChannel.lookup v = _
  rw [updateParticipant_userToChannel]
  rfl

theorem voiceState_clearChannel :
    (m.clearChannel channel).2.voiceState v =
      if m.userChannel v = some channel then none else m.voiceState v := by
  rw [voiceState, clearChannel, (clearChannel_spec m.consistent channel).2.1]
  simp only [mem_participants]
  rfl

theorem mem_clearChannel :
    v ∈ (m.clearChannel channel).1 ↔ m.userChannel v = some channel := by
  rw [clearChannel, (clearChannel_spec m.consistent channel).1, mem_participants]

theorem voiceState_transferOwnerSession (expected next : Nat) :
    (m.transferOwnerSession user expected next).2.voiceState v =
      if v = user ∧ m.userSession user = some expected then
        (m.voiceState user).map fun st => { st with ownerSession := next }
      else m.voiceState v := by
  simp only [voiceState, userSession, transferOwnerSession, VoiceTables.transferOwnerSession]
  grind

end VoiceSessionManager

end Kergit
