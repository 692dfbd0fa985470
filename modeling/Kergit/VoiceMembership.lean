import Mathlib.Data.List.Nodup
import Kergit.Lib.Staged
import Kergit.VoiceSessionManager

/-!
Who is in which voice channel, over a whole life of `VoiceSessionManager`.

The manager carries the agreement of its two maps, so every fact here is one about a single
manager: `Seated` collects what its answers mean.  The count of voice users reads one map
and the sizes of the channels the other; `activeVoiceUserCount_eq` compares them through
the list of all members, channel after channel (`members_perm`).
-/

namespace Kergit

open Lib

namespace VoiceSessionManager

variable {m : VoiceSessionManager} {channel d : ChannelId} {user v : UserId}

def activeVoiceUserCount (m : VoiceSessionManager) : Nat := m.tables.userToChannel.keys.length

theorem nodup_usersInChannel (m : VoiceSessionManager) (channel : ChannelId) :
    (m.usersInChannel channel).Nodup :=
  (m.tables.participants channel).keys_nodup

/-- A channel with a member is active. -/
theorem mem_activeChannels (here : m.userChannel user = some channel) :
    channel ∈ m.activeChannels := by
  have listed : user ∈ m.tables.participants channel := mem_participants.mpr here
  rw [activeChannels, VoiceTables.activeChannels, ← AList.mem_keys, Map.mem_iff_lookup]
  cases found : m.tables.channels.lookup channel with
  | none => simp [VoiceTables.participants, Map.inner, found] at listed
  | some present => exact ⟨present, rfl⟩

theorem mem_userToChannel :
    user ∈ m.tables.userToChannel.keys ↔ ∃ channel, m.userChannel user = some channel := by
  rw [← AList.mem_keys, Map.mem_iff_lookup]
  constructor
  · rintro ⟨st, found⟩
    exact ⟨st.channel, userChannel_eq_some.mpr ⟨st.ownerSession, found⟩⟩
  · rintro ⟨channel, here⟩
    obtain ⟨owner, found⟩ := userChannel_eq_some.mp here
    exact ⟨_, found⟩

/-- The members of the active channels are the mapped users, each once. -/
theorem members_perm (m : VoiceSessionManager) :
    (m.activeChannels.flatMap m.usersInChannel).Perm m.tables.userToChannel.keys := by
  have apart : m.activeChannels.Pairwise (Function.onFun List.Disjoint m.usersInChannel) := by
    have distinct : m.activeChannels.Nodup := m.tables.channels.keys_nodup
    apply distinct.imp
    intro c d differ user inFirst inSecond
    rw [mem_usersInChannel] at inFirst inSecond
    rw [inFirst] at inSecond
    exact differ (Option.some.inj inSecond)
  have once : (m.activeChannels.flatMap m.usersInChannel).Nodup :=
    List.nodup_flatMap.mpr ⟨fun channel _ => m.nodup_usersInChannel channel, apart⟩
  apply (List.perm_ext_iff_of_nodup once m.tables.userToChannel.keys_nodup).mpr
  intro user
  rw [List.mem_flatMap, mem_userToChannel]
  simp only [mem_usersInChannel]
  constructor
  · rintro ⟨channel, -, here⟩
    exact ⟨channel, here⟩
  · rintro ⟨channel, here⟩
    exact ⟨channel, mem_activeChannels here, here⟩

/-- A channel has a single member exactly when its list is that member. -/
theorem usersInChannel_eq_singleton :
    m.usersInChannel channel = [user] ↔
      m.userChannel user = some channel ∧ ∀ v, m.userChannel v = some channel → v = user := by
  simp only [← mem_usersInChannel]
  constructor
  · intro sole
    simp [sole]
  · rintro ⟨here, last⟩
    apply List.perm_singleton.mp
    apply (List.perm_ext_iff_of_nodup (m.nodup_usersInChannel channel) (by simp)).mpr
    grind

theorem nodup_clearChannel (m : VoiceSessionManager) (channel : ChannelId) :
    (m.clearChannel channel).1.Nodup := by
  change (m.tables.clearChannel channel).1.Nodup
  unfold VoiceTables.clearChannel
  split
  · exact List.nodup_nil
  · rename_i present _
    exact present.keys_nodup

/-- Two managers nobody can tell apart. -/
def Same (m m' : VoiceSessionManager) : Prop :=
  (∀ user, m'.voiceState user = m.voiceState user) ∧
    ∀ channel, m'.tables.channels.lookup channel = m.tables.channels.lookup channel

theorem leave_same (absent : m.userChannel user ≠ some channel) :
    m.Same (m.leave channel user).2 := by
  have untracked : ∀ owner, m.tables.userToChannel.lookup user ≠ some ⟨channel, owner⟩ :=
    fun owner tracked => absent (userChannel_eq_some.mpr ⟨owner, tracked⟩)
  obtain ⟨-, owners, rows⟩ := VoiceTables.leave_stranger m.consistent untracked
  constructor
  · intro v
    change (m.tables.leave channel user).2.userToChannel.lookup v = _
    rw [owners]
    rfl
  · exact rows

/-- `leave` answers yes exactly when it takes a member and nobody stays. -/
theorem leave_empties_iff : (m.leave channel user).1 = true ↔
    user ∈ m.usersInChannel channel ∧ (m.leave channel user).2.usersInChannel channel = [] := by
  rw [leave_emptied_iff, List.eq_nil_iff_forall_not_mem]
  simp only [mem_usersInChannel, userChannel_leave]
  grind

/-- What the tables and the answers of the manager mean. -/
structure Seated (m : VoiceSessionManager) : Prop where
  one_channel : ∀ user c d, user ∈ m.tables.participants c → user ∈ m.tables.participants d → c = d
  listed_iff : ∀ user c, user ∈ m.tables.participants c ↔ m.userChannel user = some c
  occupied : ∀ c present, m.tables.channels.lookup c = some present → ∃ user, user ∈ present
  leave_last : ∀ c user, (m.leave c user).1 = true ↔ m.usersInChannel c = [user]
  leave_removed : ∀ c user, (m.leave c user).1 = true ↔
    user ∈ m.usersInChannel c ∧ (m.leave c user).2.usersInChannel c = []
  leave_state : ∀ c user v, (m.leave c user).2.voiceState v =
    if v = user ∧ m.userChannel user = some c then none else m.voiceState v
  leave_stranger : ∀ c user, m.userChannel user ≠ some c → m.Same (m.leave c user).2
  clear_once : ∀ c, (m.clearChannel c).1.Nodup
  clear_members : ∀ c user, user ∈ (m.clearChannel c).1 ↔ m.userChannel user = some c
  clear_removed : ∀ c user, user ∈ (m.clearChannel c).1 ↔
    m.voiceState user ≠ none ∧ (m.clearChannel c).2.voiceState user = none
  counted : m.activeVoiceUserCount =
    (m.activeChannels.map fun c => (m.usersInChannel c).length).sum

theorem seated (m : VoiceSessionManager) : m.Seated where
  one_channel user c d inFirst inSecond := by
    rw [mem_participants] at inFirst inSecond
    rw [inFirst] at inSecond
    exact Option.some.inj inSecond
  listed_iff _ _ := mem_participants
  occupied c present found := (Map.isEmpty_eq_false_iff _).mp (m.consistent.occupied c present found)
  leave_last _ _ := leave_emptied_iff.trans usersInChannel_eq_singleton.symm
  leave_removed _ _ := leave_empties_iff
  leave_state _ _ _ := voiceState_leave
  leave_stranger _ _ absent := leave_same absent
  clear_once := m.nodup_clearChannel
  clear_members _ _ := mem_clearChannel
  clear_removed c user := by
    rw [mem_clearChannel, voiceState_clearChannel]
    by_cases here : m.userChannel user = some c
    · obtain ⟨owner, found⟩ := userChannel_eq_some.mp here
      simp [found]
    · simp [here]
  counted := by rw [activeVoiceUserCount, ← m.members_perm.length_eq, List.length_flatMap]

/-- The calls that change the tables. -/
inductive Op where
  | join (channel : ChannelId) (user : UserId) (session : Nat)
  | leave (channel : ChannelId) (user : UserId)
  | transferOwnerSession (user : UserId) (expected next : Nat)
  | setMuted (user : UserId) (muted : Bool)
  | setDeafened (user : UserId) (deafened : Bool)
  | clearChannel (channel : ChannelId)

def play (m : VoiceSessionManager) : Op → VoiceSessionManager
  | .join channel user session => (m.join channel user session).2
  | .leave channel user => (m.leave channel user).2
  | .transferOwnerSession user expected next => (m.transferOwnerSession user expected next).2
  | .setMuted user muted => (m.setMuted user muted).2
  | .setDeafened user deafened => (m.setDeafened user deafened).2
  | .clearChannel channel => (m.clearChannel channel).2

/-- **Voice membership.**  After every sequence of calls the two maps agree, no channel is
kept empty, `leave` and `clear_channel` answer what they did, and the user count is the sum
of the channels' sizes. -/
theorem voice_sessions_seated (ops : List Op) : (run play empty ops).Seated :=
  seated _

end VoiceSessionManager

end Kergit
