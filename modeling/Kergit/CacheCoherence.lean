import Kergit.Snapshots

/-!
The membership cache against the database.

`HubService` keeps its snapshots coherent by hand: a write commits and then drops or
edits the cached snapshot, a load reads the rows and then puts a new one.  `service` is
the machine of its calls, any number of them at once.

A write that has committed owes the cache a step: `stage` is how far it has come.  A
snapshot that differs from the rows is harmless as long as the write that makes the
difference still owes that step.  `Fresh` is the condition on an interleaving, on each
put: the snapshot of a load is not put after a write that committed since its rows were
read has already come to the cache, and nobody touches the cached snapshot between a
channel write's look at it and its put.

- `service_keeps`: a call writes once, and settles what it owes before it returns.
- `coherent_call`: every call of every task keeps `Coherent`.
- `answers_agree`: when all calls have returned, the answers are the database's.
-/

namespace Kergit

open Lib

open HubProg (cache database)

/-- A call of `HubService`. -/
inductive ServiceCall where
  | getHub (hub : HubId)
  | getHubsByIds (hubs : List HubId)
  | getChannel (channel : ChannelId)
  | getChannelsByIds (channels : List ChannelId)
  | getUserHubs (user : UserId)
  | warmSnapshotsForHubs (hubs : List Hub)
  | getHubTopology (hub : HubId)
  | getHubMembersWithRoles (hub : HubId)
  | getHubChannelIds (hub : HubId)
  | isHubMember (hub : HubId) (user : UserId)
  | getMembershipRole (hub : HubId) (user : UserId)
  | createHub (owner : UserId) (name : String)
  | createChannel (hub : HubId) (type : ChannelType) (name : String)
  | renameChannel (channel : ChannelId) (name : String)
  | deleteChannel (channel : ChannelId) (hub : HubId)
  | renameHub (hub : HubId) (name : String)
  | updateHubAvatarSeed (hub : HubId) (avatarSeed : String)
  | deleteHub (hub : HubId) (owner : UserId)
  | addMember (hub : HubId) (user : UserId) (role : Role)
  | removeMember (hub : HubId) (user : UserId)

/-- The call's program; what it answers is of no consequence to the others. -/
def ServiceCall.prog : ServiceCall → HubProg Unit
  | getHub hub => do let _ ← HubService.getHub hub
  | getHubsByIds hubs => do let _ ← HubService.getHubsByIds hubs
  | getChannel channel => do let _ ← HubService.getChannel channel
  | getChannelsByIds channels => do let _ ← HubService.getChannelsByIds channels
  | getUserHubs user => do let _ ← HubService.getUserHubs user
  | warmSnapshotsForHubs hubs => HubService.warmSnapshotsForHubs hubs
  | getHubTopology hub => do let _ ← HubService.getHubTopology hub
  | getHubMembersWithRoles hub => do let _ ← HubService.getHubMembersWithRoles hub
  | getHubChannelIds hub => do let _ ← HubService.getHubChannelIds hub
  | isHubMember hub user => do let _ ← HubService.isHubMember hub user
  | getMembershipRole hub user => do let _ ← HubService.getMembershipRole hub user
  | createHub owner name => do let _ ← HubService.createHub owner name
  | createChannel hub type name => do let _ ← HubService.createChannel hub type name
  | renameChannel channel name => do let _ ← HubService.renameChannel channel name
  | deleteChannel channel hub => do let _ ← HubService.deleteChannel channel hub
  | renameHub hub name => do let _ ← HubService.renameHub hub name
  | updateHubAvatarSeed hub seed => do let _ ← HubService.updateHubAvatarSeed hub seed
  | deleteHub hub owner => do let _ ← HubService.deleteHub hub owner
  | addMember hub user role => HubService.addMember hub user role
  | removeMember hub user => HubService.removeMember hub user

/-- Any number of calls of `HubService` at once. -/
def service : Machine HubCall HubCall.Answer Thrown ServiceCall Unit World CallEnv where
  exec := World.exec
  prog := ServiceCall.prog

abbrev ServiceScene := Scene HubCall HubCall.Answer Thrown ServiceCall Unit World

abbrev ServiceEvent := Event HubCall HubCall.Answer Thrown ServiceCall Unit

namespace CacheCoherence

open Snapshots

open World (exec after)

/-! ## What a write owes the cache -/

/-- What a committed write has to do about the cached snapshot: drop it, or bring one
channel in or out. -/
inductive Due where
  | entry
  | created (id : ChannelId)
  | deleted (id : ChannelId)
deriving DecidableEq

variable (hub : HubId)

/-- The call commits a write of the hub's rows. -/
def commits : (c : HubCall) → Except Thrown c.Answer → Option Due
  | .database (.createHub _ _), .ok row => if row.id = hub then some .entry else none
  | .database (.deleteHub k _), .ok true => if k = hub then some .entry else none
  | .database (.addMember k _ _), .ok _ => if k = hub then some .entry else none
  | .database (.removeMember k _), .ok _ => if k = hub then some .entry else none
  | .database (.createChannel k _ _), .ok id => if k = hub then some (.created id) else none
  | .database (.deleteChannel id k), .ok true => if k = hub then some (.deleted id) else none
  | _, _ => none

/-- The call does what is due: it drops the snapshot, puts the edited one, or finds that
there is none to edit. -/
def settles (due : Due) : (c : HubCall) → Except Thrown c.Answer → Bool
  | .cache (.invalidate k), _ => decide (k = hub ∧ due = .entry)
  | .cache (.put snapshot), _ => decide (snapshot.hubId = hub ∧ due ≠ .entry)
  | .cache (.get k), .ok none => decide (k = hub ∧ due ≠ .entry)
  | .cache (.get k), .ok (some snapshot) =>
    decide (k = hub ∧ ∃ id ∈ snapshot.channelIds, due = .created id)
  | _, _ => false

inductive Stage where
  | idle
  | owes (due : Due)
  | settled
deriving DecidableEq

/-- After a call that commits `due`, or nothing. -/
def Stage.first : Option Due → Stage
  | some due => owes due
  | none => idle

def Stage.advance (c : HubCall) (answer : Except Thrown c.Answer) : Stage → Stage
  | idle => first (commits hub c answer)
  | owes due => if settles hub due c answer then settled else owes due
  | settled => settled

/-- How far a task has come with its write. -/
def stage : HubTranscript → Stage
  | [] => .idle
  | ⟨c, answer⟩ :: earlier => Stage.advance hub c answer (stage earlier)

/-- The call looks at the cached snapshot. -/
def gets : (c : HubCall) → Except Thrown c.Answer → Option (Option HubSnapshot)
  | .cache (.get k), .ok found => if k = hub then some found else none
  | _, _ => none

/-- The cached snapshot as the task saw it last. -/
def got : HubTranscript → Option HubSnapshot
  | [] => none
  | ⟨c, answer⟩ :: earlier =>
    match gets hub c answer with
    | some found => found
    | none => got earlier

/-- The snapshot with the channel a write has created or deleted. -/
inductive Edited (base : HubSnapshot) : Due → HubSnapshot → Prop
  | created (id : ChannelId) :
    Edited base (.created id) { base with channelIds := base.channelIds ++ [id] }
  | deleted (id : ChannelId) :
    Edited base (.deleted id) { base with channelIds := base.channelIds.filter fun k => k ≠ id }

/-! ## The condition -/

def dueOf : ServiceEvent → Option Due
  | .called _ c answer => commits hub c answer
  | .began _ _ | .returned _ _ => none

/-- The event changes the cached snapshot. -/
def touches : ServiceEvent → Bool
  | .called _ (.cache (.put snapshot)) _ => decide (snapshot.hubId = hub)
  | .called _ (.cache (.invalidate k)) _ => decide (k = hub)
  | _ => false

variable (s : ServiceScene) (i : Nat)

/-- What has happened since the task read the hub's rows. -/
def sinceRows : List ServiceEvent :=
  s.since i fun c answer => (channelRows hub c answer).isSome

/-- What has happened since the task looked at the cached snapshot. -/
def sinceGot : List ServiceEvent :=
  s.since i fun c answer => (gets hub c answer).isSome

/-- A write has committed since the task read the rows, and has settled what it owed. -/
def Spoiled : Prop :=
  ∃ event ∈ sinceRows hub s i,
    (dueOf hub event).isSome = true ∧ stage hub (s.transcript event.task) = .settled
deriving Decidable

/-- The cached snapshot was put or dropped since the task looked at it. -/
def Disturbed : Prop :=
  ∃ event ∈ sinceGot hub s i, touches hub event = true
deriving Decidable

/-- Some task owes this. -/
def Owed (due : Due) : Prop :=
  s.Some fun j => stage hub (s.transcript j) = .owes due
deriving Decidable

/-- The channel is as the write left it, or the write that changed it again has yet to
come to the cache. -/
def Stands : Due → Prop
  | .entry => True
  | .created id => Owed hub s .entry ∨ id ∈ s.shared.database.getHubChannelIds hub ∨
      Owed hub s (.deleted id)
  | .deleted id => Owed hub s .entry ∨ id ∉ s.shared.database.getHubChannelIds hub ∨
      Owed hub s (.created id)

def puts : HubCall → Option HubSnapshot
  | .cache (.put snapshot) => some snapshot
  | _ => none

/-- A snapshot of the hub is put in time. -/
def Fresh (_ : CallEnv) (c : HubCall) : Prop :=
  ∀ snapshot ∈ puts c, snapshot.hubId = hub →
    match stage hub (s.transcript i) with
    | .owes due => ¬ Disturbed hub s i ∧ Stands hub s due
    | .idle | .settled => ¬ Spoiled hub s i

instance (s : ServiceScene) (due : Due) : Decidable (Stands hub s due) := by
  cases due <;> unfold Stands <;> infer_instance

instance (s : ServiceScene) (i : Nat) (env : CallEnv) (c : HubCall) :
    Decidable (Fresh hub s i env c) := by
  unfold Fresh
  cases stage hub (s.transcript i) <;> infer_instance

/-! ## What a call does to the hub -/

section Effects

variable {hub} {env : CallEnv} {c : HubCall} {w : World}

/-- The channel is one of the hub's. -/
def Lists (hub : HubId) (t : HubTables) (id : ChannelId) : Prop :=
  ∃ channel, t.channels.lookup id = some channel ∧ channel.hubId = hub

/-- What a call that commits `due`, or nothing, does to the rows of the hub. -/
structure Changed (hub : HubId) (t t' : HubTables) (due : Option Due) : Prop where
  roles : ∀ user, t'.members.lookup (hub, user) = t.members.lookup (hub, user) ∨ due = some .entry
  gained : ∀ id, Lists hub t' id → Lists hub t id ∨ due = some (.created id)
  lost : ∀ id, Lists hub t id → Lists hub t' id ∨ due = some (.deleted id) ∨ due = some .entry

variable {t : HubTables} {due : Option Due} {k : HubId}

/-- A write to the members of `k`. -/
theorem Changed.members (channels : t'.channels = t.channels)
    (others : ∀ user, hub ≠ k → t'.members.lookup (hub, user) = t.members.lookup (hub, user)) :
    Changed hub t t' (if k = hub then some .entry else none) := by
  refine ⟨fun user => ?_, fun id listed => .inl ?_, fun id listed => .inl ?_⟩
  · grind
  · rwa [Lists, channels] at listed
  · rwa [Lists, channels]

theorem Changed.deleteHub :
    Changed hub t (t.withoutHub k) (if k = hub then some .entry else none) := by
  refine ⟨fun user => ?_, fun id listed => ?_, fun id listed => ?_⟩
  · by_cases here : k = hub
    · exact .inr (if_pos here)
    · rw [HubTables.withoutHub, Map.lookup_filter, decide_eq_true (Ne.symm here)]
      exact .inl (by cases t.members.lookup (hub, user) <;> rfl)
  · obtain ⟨channel, found, inside⟩ := listed
    rw [HubTables.withoutHub, Map.lookup_filter, Option.filter_eq_some_iff] at found
    exact .inl ⟨channel, found.1, inside⟩
  · by_cases here : k = hub
    · exact .inr (.inr (if_pos here))
    · obtain ⟨channel, found, inside⟩ := listed
      refine .inl ⟨channel, ?_, inside⟩
      rw [HubTables.withoutHub, Map.lookup_filter, Option.filter_eq_some_iff, decide_eq_true_eq]
      exact ⟨found, fun same => here (same.symm.trans inside)⟩

theorem Changed.createChannel (unused : t.channels.lookup new.id = none) :
    Changed hub t { t with channels := t.channels.insert new.id new }
      (if new.hubId = hub then some (.created new.id) else none) := by
  refine ⟨fun user => .inl rfl, ?_, ?_⟩
  · rintro id ⟨channel, found, inside⟩
    rw [Map.lookup_insert_if] at found
    split at found
    · grind
    · exact .inl ⟨channel, found, inside⟩
  · rintro id ⟨channel, found, inside⟩
    refine .inl ⟨channel, ?_, inside⟩
    grind

theorem Changed.deleteChannel (was : t.channels.lookup old = some info) :
    Changed hub t { t with channels := t.channels.erase old }
      (if info.hubId = hub then some (.deleted old) else none) := by
  refine ⟨fun user => .inl rfl, ?_, ?_⟩
  · rintro id ⟨channel, found, inside⟩
    rw [Map.lookup_erase_if] at found
    split at found
    · nomatch found
    · exact .inl ⟨channel, found, inside⟩
  · rintro id ⟨channel, found, inside⟩
    by_cases same : id = old
    · grind
    · refine .inl ⟨channel, ?_, inside⟩
      rw [Map.lookup_erase_if, if_neg same]
      exact found

/-- A channel keeps its hub when it is renamed. -/
theorem Changed.renameChannel (was : t.channels.lookup old = some info) :
    Changed hub t { t with channels := t.channels.insert old { info with name } } due := by
  have same : ∀ id, Lists hub { t with channels := t.channels.insert old { info with name } } id ↔
      Lists hub t id := by
    intro id
    simp only [Lists, Map.lookup_insert_if]
    split
    · rename_i here
      subst here
      simp [was]
    · rfl
  exact ⟨fun user => .inl rfl, fun id listed => .inl ((same id).mp listed),
    fun id listed => .inl ((same id).mpr listed)⟩

/-- What a call does to the rows of the hub. -/
theorem rows_exec (env : CallEnv) (c : HubCall) (w : World) :
    Changed hub w.database.tables (exec env c w).2.database.tables
      (commits hub c (exec env c w).1) := by
  have step := World.exec_tables env c w
  generalize (exec env c w).2.database.tables = t' at step ⊢
  generalize (exec env c w).1 = answer at step ⊢
  have other : ∀ {k user member}, hub ≠ k → ¬ (hub, user) = ((k, member) : HubId × UserId) :=
    fun differ same => differ (Prod.mk.inj same).1
  cases step with
  | same | profiles => exact ⟨fun _ => .inl rfl, fun _ => .inl, fun _ => .inl⟩
  | createHub owner name unused =>
    refine .members rfl fun user differ => ?_
    rw [HubTables.withHub, Map.lookup_insert_if, if_neg (other differ)]
  | addMember k member owner role existing allowed =>
    refine .members rfl fun user differ => ?_
    rw [Map.lookup_insert_if, if_neg (other differ)]
  | removeMember k member =>
    refine .members rfl fun user differ => ?_
    rw [Map.lookup_erase_if, if_neg (other differ)]
  | createChannel k type name unused =>
    exact @Changed.createChannel hub _ ⟨env.channelId, k, type, textParam name⟩ unused
  | renameChannel id name channel was => exact .renameChannel was
  | deleteChannel id channel was => exact .deleteChannel was
  | deleteHub k owner owned => exact .deleteHub

/-- A look at the cached snapshot shows it. -/
theorem gets_exec (looks : gets hub c (exec env c w).1 = some found) :
    found = w.caches.snapshots.lookup hub ∧ (exec env c w).2 = w := by
  generalize answered : (exec env c w).1 = answer at looks
  unfold gets at looks
  split at looks
  · obtain ⟨rfl, ⟨⟩⟩ := Option.ite_none_right_eq_some.mp looks
    exact ⟨(Except.ok.inj answered).symm, rfl⟩
  · nomatch looks

end Effects

/-! ## The rule of a single call -/

/-- A task puts what it has read, or edits what it has got after its own write; and it
writes once. -/
def Rule (t : HubTranscript) : HubCall → Prop
  | .cache (.put snapshot) => snapshot.hubId = hub →
      stage hub t = .idle ∧ Built snapshot t ∨
        ∃ base due, got hub t = some base ∧ stage hub t = .owes due ∧ Edited base due snapshot
  | .database d => d.Reads ∨ stage hub t = .idle
  | _ => True

/-- It has settled what it owed. -/
def Paid (t : HubTranscript) : Prop := ∀ due, stage hub t ≠ .owes due

def discipline : Discipline service where
  Possible := Sane
  Rule := fun _ => Rule hub
  End := fun _ _ => Paid hub
  possible := exec_sane

/-! ## The invariant -/

/-- Channels and member roles are those of the hub, but for the writes in `D`. -/
structure Near (D : Due → Prop) (channels : List ChannelId) (roles : Option (Map UserId Role))
    (r : HubRepository) : Prop where
  roles : ∀ known, roles = some known → ∀ user,
    known.lookup user = r.getMembershipRole hub user ∨ D .entry
  gained : ∀ id ∈ r.getHubChannelIds hub, id ∈ channels ∨ D (.created id) ∨ D .entry
  lost : ∀ id ∈ channels, id ∈ r.getHubChannelIds hub ∨ D (.deleted id) ∨ D .entry

/-- The snapshot shows the rows, but for writes that have yet to come to the cache. -/
abbrev Agrees (snapshot : HubSnapshot) : Prop :=
  Near hub (Owed hub s) snapshot.channelIds (some snapshot.memberRoles) s.shared.database

/-- The write has committed since the task read the rows. -/
def Since (due : Due) : Prop :=
  ∃ event ∈ sinceRows hub s i, dueOf hub event = some due

/-- What a task has read of the rows is what they are, but for writes that have
committed since. -/
abbrev Current (known : Rows) : Prop :=
  Near hub (Since hub s i) known.channels known.roles s.shared.database

structure Coherent (s : ServiceScene) : Prop extends (discipline hub).Abides s where
  cached : ∀ snapshot, s.shared.caches.snapshots.lookup hub = some snapshot →
    Agrees hub s snapshot
  read : ∀ i known, rows hub (s.transcript i) = some known → Current hub s i known
  seen : ∀ i base, got hub (s.transcript i) = some base →
    s.shared.caches.snapshots.lookup hub = some base ∨ Disturbed hub s i
  due : ∀ event ∈ s.history, ∀ due, dueOf hub event = some due →
    stage hub (s.transcript event.task) = .owes due ∨
      stage hub (s.transcript event.task) = .settled

variable {hub} {s : ServiceScene} {i j : Nat} {env : CallEnv} {c : HubCall} {due : Due}

section Near

variable {D D' : Due → Prop} {channels : List ChannelId} {roles : Option (Map UserId Role)}
  {r r' : HubRepository}

/-- Writes may be forgotten that created a channel which is listed. -/
theorem Near.mono (near : Near hub D channels roles r)
    (weaker : ∀ due, D due → D' due ∨ ∃ id ∈ channels, due = .created id) :
    Near hub D' channels roles r := by
  refine ⟨fun known is user => ?_, fun id listed => ?_, fun id listed => ?_⟩
  · have shown := near.roles known is user
    grind
  · have shown := near.gained id listed
    grind
  · have shown := near.lost id listed
    grind

theorem Near.changed (near : Near hub D channels roles r)
    (changed : Changed hub r.tables r'.tables new) (commits : ∀ due, new = some due → D due) :
    Near hub D channels roles r' := by
  refine ⟨fun known is user => ?_, fun id listed => ?_, fun id listed => ?_⟩
  · have := near.roles known is user
    have := changed.roles user
    grind
  · have := changed.gained id ((HubRepository.mem_getHubChannelIds _ _).mp listed)
    have := near.gained id
    grind [HubRepository.mem_getHubChannelIds, Lists]
  · have := near.lost id listed
    have := changed.lost id
    grind [HubRepository.mem_getHubChannelIds, Lists]

/-- The edited snapshot, by a write whose channel stands. -/
theorem Near.edited
    (near : Near hub D base.channelIds (some base.memberRoles) r) (edited : Edited base due snapshot)
    (stands : ∀ id, (due = .created id → D .entry ∨ id ∈ r.getHubChannelIds hub ∨ D (.deleted id)) ∧
      (due = .deleted id → D .entry ∨ id ∉ r.getHubChannelIds hub ∨ D (.created id)))
    (others : ∀ other, D other → other ≠ due → D' other) :
    Near hub D' snapshot.channelIds (some snapshot.memberRoles) r := by
  obtain ⟨roles, gained, lost⟩ := near
  cases edited with
  | created new | deleted old =>
    refine ⟨fun known is user => ?_, fun id listed => ?_, fun id listed => ?_⟩
    · grind
    · grind
    · have := lost id
      grind

end Near

theorem owed_iff : Owed hub s due ↔ ∃ j, stage hub (s.transcript j) = .owes due := by
  constructor
  · rintro ⟨event, -, owes⟩
    exact ⟨_, owes⟩
  · rintro ⟨j, owes⟩
    have called : s.transcript j ≠ [] := by
      intro nothing
      rw [nothing] at owes
      nomatch owes
    obtain ⟨event, listed, rfl⟩ := Scene.exists_of_transcript_ne_nil called
    exact ⟨event, listed, owes⟩

theorem stage_after : stage hub ((after s i env c).transcript j) =
    if i = j then (stage hub (s.transcript j)).advance hub c (exec env c s.shared).1
    else stage hub (s.transcript j) := by
  rw [Scene.transcript_log_called]
  split <;> rfl

/-- What is owed stays owed, unless the call settles it. -/
theorem Owed.after (owed : Owed hub s due) :
    stage hub (s.transcript i) = .owes due ∧
        settles hub due c (exec env c s.shared).1 = true ∨
      Owed hub (after s i env c) due := by
  obtain ⟨j, owes⟩ := owed_iff.mp owed
  by_cases mine : i = j ∧ settles hub due c (exec env c s.shared).1 = true
  · obtain ⟨rfl, settled⟩ := mine
    exact .inl ⟨owes, settled⟩
  · refine .inr (owed_iff.mpr ⟨j, ?_⟩)
    rw [stage_after]
    split
    · rename_i same
      rw [owes, Stage.advance, if_neg fun settled => mine ⟨same, settled⟩]
    · exact owes

theorem owed_of_commits (idle : stage hub (s.transcript i) = .idle)
    (committed : commits hub c (exec env c s.shared).1 = some due) :
    Owed hub (after s i env c) due := by
  refine owed_iff.mpr ⟨i, ?_⟩
  rw [stage_after, if_pos rfl, idle, Stage.advance, committed, Stage.first]

/-- Only a database write commits. -/
theorem idle_of_commits (rule : Rule hub (s.transcript i) c)
    (committed : commits hub c (exec env c s.shared).1 = some due) :
    stage hub (s.transcript i) = .idle := by
  cases c with
  | database d =>
    rcases rule with reads | idle
    · cases d <;> first | exact reads.elim | exact absurd committed (by simp [commits])
    · exact idle
  | _ => exact absurd committed (by simp [commits])

/-- A snapshot that stays cached goes on agreeing. -/
theorem Agrees.after (agrees : Agrees hub s snapshot)
    (is : s.shared.caches.snapshots.lookup hub = some snapshot)
    (stays : ∀ other, c = .cache (.put other) → other.hubId ≠ hub)
    (kept : c ≠ .cache (.invalidate hub)) (rule : Rule hub (s.transcript i) c) :
    Agrees hub (after s i env c) snapshot := by
  -- Only a look at the cached snapshot settles anything.
  have settles_only : ∀ due, settles hub due c (exec env c s.shared).1 = true →
      ∃ id ∈ snapshot.channelIds, due = .created id := by
    intro due settled
    generalize answered : (exec env c s.shared).1 = answer at settled
    unfold settles at settled
    split at settled
    · obtain ⟨rfl, -⟩ := of_decide_eq_true settled
      exact absurd rfl kept
    · exact absurd (of_decide_eq_true settled).1 (stays _ rfl)
    · obtain ⟨rfl, -⟩ := of_decide_eq_true settled
      nomatch is.symm.trans (Except.ok.inj answered)
    · obtain ⟨rfl, created⟩ := of_decide_eq_true settled
      cases is.symm.trans (Except.ok.inj answered)
      exact created
    · nomatch settled
  refine (agrees.mono fun due owed => ?_).changed (rows_exec env c s.shared) ?_
  · rcases owed.after with ⟨-, settled⟩ | owed
    · exact .inr (settles_only due settled)
    · exact .inl owed
  · exact fun due committed => owed_of_commits (idle_of_commits rule committed) committed

/-- A load puts what agrees, unless it is spoiled. -/
theorem Coherent.put_built (coherent : Coherent hub s)
    (here : snapshot.hubId = hub) (idle : stage hub (s.transcript i) = .idle)
    (built : Built snapshot (s.transcript i)) (unspoiled : ¬ Spoiled hub s i) :
    Agrees hub (after s i env (.cache (.put snapshot))) snapshot := by
  subst here
  refine (coherent.read i _ built).mono ?_
  rintro due ⟨event, listed, commits⟩
  refine .inl ?_
  rcases coherent.due event (Scene.mem_history_of_mem_since listed) due commits with owes | settled
  · rcases (owed_iff.mpr ⟨_, owes⟩ : Owed snapshot.hubId s due).after with ⟨mine, -⟩ | owed
    · rw [idle] at mine
      nomatch mine
    · exact owed
  · exact absurd ⟨event, listed, by rw [commits]; rfl, settled⟩ unspoiled

/-- A channel write puts the cached snapshot edited, and it agrees. -/
theorem Coherent.put_edited (coherent : Coherent hub s)
    (seen : got hub (s.transcript i) = some base) (owes : stage hub (s.transcript i) = .owes due)
    (edited : Edited base due snapshot) (undisturbed : ¬ Disturbed hub s i)
    (stands : Stands hub s due) : Agrees hub (after s i env (.cache (.put snapshot))) snapshot := by
  have is : s.shared.caches.snapshots.lookup hub = some base := by
    rcases coherent.seen i base seen with is | disturbed
    · exact is
    · exact absurd disturbed undisturbed
  refine (coherent.cached base is).edited edited ?_ fun other owed differ => ?_
  · intro id
    exact ⟨fun same => by rwa [same] at stands, fun same => by rwa [same] at stands⟩
  rcases owed.after with ⟨mine, -⟩ | owed
  · exact absurd (Stage.owes.inj (mine.symm.trans owes)) differ
  · exact owed

/-! ### One call -/

/-- The cached snapshot after a call agrees. -/
theorem Coherent.cached_call (coherent : Coherent hub s) (rule : Rule hub (s.transcript i) c)
    (fresh : Fresh hub s i env c)
    (is : (after s i env c).shared.caches.snapshots.lookup hub = some snapshot) :
    Agrees hub (after s i env c) snapshot := by
  by_cases puts : ∃ other, c = .cache (.put other) ∧ other.hubId = hub
  · obtain ⟨other, rfl, here⟩ := puts
    have same : snapshot = other := by
      have stored : (after s i env (.cache (.put other))).shared.caches.snapshots.lookup hub =
          some other := by
        change (s.shared.caches.snapshots.insert other.hubId other).lookup hub = _
        rw [Map.lookup_insert_if, if_pos here.symm]
      exact Option.some.inj (is.symm.trans stored)
    subst same
    have fresh := fresh snapshot rfl here
    rcases rule here with ⟨idle, built⟩ | ⟨base, due, seen, owes, edited⟩
    · rw [idle] at fresh
      exact coherent.put_built here idle built fresh
    · rw [owes] at fresh
      exact coherent.put_edited seen owes edited fresh.1 fresh.2
  · have stays : ∀ other, c = .cache (.put other) → other.hubId ≠ hub := fun other same here =>
      puts ⟨other, same, here⟩
    rcases @snapshot_exec hub env c s.shared with kept | ⟨other, same, here, -⟩ | ⟨-, gone⟩
    · have before := kept.symm.trans is
      refine (coherent.cached snapshot before).after before stays ?_ rule
      rintro rfl
      have gone : (after s i env (.cache (.invalidate hub))).shared.caches.snapshots.lookup hub =
          none := by
        change (s.shared.caches.snapshots.erase hub).lookup hub = _
        rw [Map.lookup_erase_if, if_pos rfl]
      cases gone.symm.trans is
    · exact absurd here (stays other same)
    · cases gone.symm.trans is

/-- What was read before stays current up to what has committed since. -/
theorem Current.after (current : Current hub s j known)
    (same : ¬ (i = j ∧ (channelRows hub c (exec env c s.shared).1).isSome = true)) :
    Current hub (after s i env c) j known := by
  refine (current.mono fun due since => .inl ?_).changed (rows_exec env c s.shared) ?_
  · obtain ⟨event, listed, committed⟩ := since
    exact ⟨event, Scene.mem_since_log.mpr ⟨same, .inr listed⟩, committed⟩
  · exact fun due committed => ⟨_, Scene.mem_since_log.mpr ⟨same, .inl rfl⟩, committed⟩

theorem commits_of_channelRows
    (reads : channelRows hub c answer = some channels) : commits hub c answer = none := by
  unfold channelRows at reads
  split at reads
  · rfl
  · rfl
  · nomatch reads

section

variable (coherent : Coherent hub s)

include coherent

/-- What a task has read is current after any call. -/
theorem Coherent.read_call (has : rows hub ((after s i env c).transcript j) = some known) :
    Current hub (after s i env c) j known := by
  rw [Scene.transcript_log_called] at has
  by_cases mine : i = j
  · subst mine
    rw [if_pos rfl, rows, Rows.advance] at has
    have changed := @rows_exec hub env c s.shared
    cases reads : channelRows hub c (exec env c s.shared).1 with
    | some channels =>
      rw [reads] at has
      cases has
      rw [commits_of_channelRows reads] at changed
      have shows := channelRows_exec reads
      have now : Near hub (Since hub (after s i env c) i) channels none s.shared.database :=
        ⟨by simp, fun id listed => .inl ((shows id).mpr listed),
          fun id listed => .inl ((shows id).mp listed)⟩
      exact now.changed changed (by simp)
    | none =>
      have same : ¬ (i = i ∧ (channelRows hub c (exec env c s.shared).1).isSome = true) := by
        rw [reads]
        simp
      rw [reads] at has
      cases members : roleRows hub c (exec env c s.shared).1 with
      | none =>
        rw [members] at has
        exact (coherent.read i known has).after same
      | some roles =>
        rw [members] at has
        obtain ⟨before, was, rfl⟩ := Option.map_eq_some_iff.mp has
        have current := (coherent.read i before was).after same
        refine ⟨fun roles' is user => ?_, current.gained, current.lost⟩
        cases is
        rcases changed.roles user with unchanged | entry
        · rw [← HubRepository.getMembershipRole_eq, ← HubRepository.getMembershipRole_eq] at unchanged
          exact .inl ((roleRows_exec members user).trans unchanged.symm)
        · exact .inr ⟨_, Scene.mem_since_log.mpr ⟨same, .inl rfl⟩, entry⟩
  · rw [if_neg mine] at has
    exact (coherent.read j known has).after fun own => mine own.1

/-- What a task has seen is cached still, or somebody has touched it since. -/
theorem Coherent.seen_call (has : got hub ((after s i env c).transcript j) = some base) :
    (after s i env c).shared.caches.snapshots.lookup hub = some base ∨
      Disturbed hub (after s i env c) j := by
  by_cases looks : i = j ∧ (gets hub c (exec env c s.shared).1).isSome = true
  · obtain ⟨rfl, some_⟩ := looks
    obtain ⟨found, is⟩ := Option.isSome_iff_exists.mp some_
    rw [Scene.transcript_log_called, if_pos rfl, got, is] at has
    obtain ⟨shown, same⟩ := gets_exec is
    refine .inl ?_
    rw [Scene.log_shared, same, ← shown]
    exact has
  · have before : got hub (s.transcript j) = some base := by
      rw [Scene.transcript_log_called] at has
      split at has
      · rename_i mine
        have nothing : gets hub c (exec env c s.shared).1 = none := by
          rw [← Option.not_isSome_iff_eq_none]
          exact fun some_ => looks ⟨mine, some_⟩
        rw [got, nothing] at has
        exact has
      · exact has
    rcases coherent.seen j base before with is | ⟨event, listed, touched⟩
    · rcases @snapshot_exec hub env c s.shared with kept | ⟨other, rfl, here, -⟩ | ⟨rfl, -⟩
      · exact .inl (kept.trans is)
      · exact .inr ⟨_, Scene.mem_since_log.mpr ⟨looks, .inl rfl⟩, decide_eq_true here⟩
      · exact .inr ⟨_, Scene.mem_since_log.mpr ⟨looks, .inl rfl⟩, decide_eq_true rfl⟩
    · exact .inr ⟨event, Scene.mem_since_log.mpr ⟨looks, .inr listed⟩, touched⟩

/-- A write that has committed owes its step until it has settled it. -/
theorem Coherent.due_call (rule : Rule hub (s.transcript i) c)
    (listed : event ∈ (after s i env c).history) (committed : dueOf hub event = some due) :
    stage hub ((after s i env c).transcript event.task) = .owes due ∨
      stage hub ((after s i env c).transcript event.task) = .settled := by
  rw [stage_after]
  rcases List.mem_cons.mp listed with rfl | earlier
  · rw [Event.task_called, if_pos rfl, idle_of_commits rule committed]
    refine .inl ?_
    rw [Stage.advance, show commits hub c (exec env c s.shared).1 = some due from committed,
      Stage.first]
  · rcases coherent.due event earlier due committed with owes | settled
    · rw [owes]
      split
      · rw [Stage.advance]
        split
        · exact .inr rfl
        · exact .inl rfl
      · exact .inl rfl
    · rw [settled]
      split
      · exact .inr rfl
      · exact .inr rfl

/-- **One call keeps the cache coherent**, whichever task makes it. -/
theorem coherent_call (began : .began i call ∈ s.history) (running : ¬ s.Returned i fun _ => true)
    (rule : Rule hub (s.transcript i) c) (fresh : Fresh hub s i env c) :
    Coherent hub (after s i env c) where
  toAbides := coherent.call began running rule
  cached := fun _ is => coherent.cached_call rule fresh is
  read := fun _ _ has => coherent.read_call has
  seen := fun _ _ has => coherent.seen_call has
  due := fun _ listed _ committed => coherent.due_call rule listed committed

/-- Starts and returns change nothing that matters here. -/
theorem Coherent.of_quiet (quiet : event.Quiet)
    (abides : (discipline hub).Abides (s.log event s.shared)) :
    Coherent hub (s.log event s.shared) where
  toAbides := abides
  cached := by
    intro snapshot is
    refine (coherent.cached snapshot is).mono fun due owed => .inl ?_
    obtain ⟨j, owes⟩ := owed_iff.mp owed
    exact owed_iff.mpr ⟨j, by rw [Scene.transcript_log_quiet quiet]; exact owes⟩
  read := by
    intro j known has
    rw [Scene.transcript_log_quiet quiet] at has
    refine (coherent.read j known has).mono fun due ⟨event, listed, committed⟩ => .inl ?_
    exact ⟨event, Scene.mem_since_log_quiet quiet listed, committed⟩
  seen := by
    intro j base has
    rw [Scene.transcript_log_quiet quiet] at has
    exact (coherent.seen j base has).imp_right fun ⟨event, listed, touched⟩ =>
      ⟨event, Scene.mem_since_log_quiet quiet listed, touched⟩
  due := by
    intro event listed due committed
    rw [Scene.transcript_log_quiet quiet]
    rcases List.mem_cons.mp listed with rfl | earlier
    · cases event with
      | called => exact quiet.elim
      | began | returned => nomatch committed
    · exact coherent.due event earlier due committed

end

theorem coherent_preserved :
    (discipline hub).Preserves (fun _ _ => True) (Fresh hub) (Coherent hub) where
  start := fun _ _ _ coherent _ fresh => coherent.of_quiet trivial (coherent.start fresh)
  call := fun _ _ _ _ _ coherent began running rule fresh =>
    coherent_call coherent began running rule fresh
  ends := fun _ _ _ _ coherent began _ paid =>
    coherent.of_quiet trivial (coherent.return began paid)

/-! ## Every call keeps the rule -/

section Service

variable {t : HubTranscript} {k : HubId}

variable (hub) in
/-- The task has not written yet. -/
def Idle (t : HubTranscript) : Prop := stage hub t = .idle

theorem Idle.paid (idle : Idle hub t) : Paid hub t := by
  intro due owes
  nomatch idle.symm.trans owes

theorem paid_of_settled (settled : stage hub t = .settled) : Paid hub t := by
  intro due owes
  nomatch settled.symm.trans owes

variable (hub) in
/-- From an idle task on, the program settles what it comes to owe. -/
abbrev Pays {α : Type} (p : HubProg α) (t : HubTranscript) : Prop :=
  p.Along Sane (Rule hub) (fun _ => Paid hub) t

/-- A call that commits nothing leaves a task idle. -/
theorem Idle.cons (idle : Idle hub t)
    (nothing : commits hub c answer = none) : Idle hub (⟨c, answer⟩ :: t) := by
  rw [Idle, stage, idle, Stage.advance, nothing, Stage.first]

theorem loads_idle : Loads (fun _ _ => True) (Rule hub) (Idle hub) where
  reads := by
    intro t c idle plain
    cases c with
    | cache c =>
      cases c with
      | put snapshot => exact plain.elim
      | _ => exact ⟨trivial, fun answer _ => idle.cons rfl⟩
    | database d =>
      refine ⟨.inl plain.1, fun answer _ => idle.cons ?_⟩
      cases d <;> first | exact plain.1.elim | rfl
    | session c | subscription c | outside c => exact plain.elim
  roles := by
    intro t d hubs idle asks _
    cases d with
    | getHubMemberRoles k | getHubMemberRolesByHubIds ks =>
      exact ⟨.inl trivial, fun answer => idle.cons rfl⟩
    | _ => nomatch asks
  puts := fun t snapshot idle built => ⟨fun _ => .inl ⟨idle, built⟩, fun _ => idle.cons rfl⟩
  seen := fun _ _ _ => trivial
  grown := fun _ _ _ _ _ => trivial

/-- What the task owes, if the hub it writes is this one. -/
def Owing (hub k : HubId) (due : Due) (t : HubTranscript) : Prop :=
  stage hub t = if k = hub then .owes due else .idle

/-- The write itself. -/
theorem write_along (idle : Idle hub t) : (database d).Along Sane (Rule hub) (fun answer t' =>
      stage hub t' = .first (commits hub (.database d) answer)) t := by
  refine .ask (.inr idle) fun answer _ => ?_
  rw [stage, show stage hub t = .idle from idle, Stage.advance]

theorem owing_of_first
    (is : stage hub t = .first (if k = hub then some due else none)) : Owing hub k due t := by
  rw [Owing, is]
  split <;> rfl

/-- A call that has nothing to do with what is owed. -/
theorem Owing.step (owing : Owing hub k due t)
    (nothing : commits hub c answer = none) (open' : settles hub due c answer = false) :
    Owing hub k due (⟨c, answer⟩ :: t) := by
  rw [Owing] at owing ⊢
  rw [stage, owing]
  split
  · rw [Stage.advance, open']
    rfl
  · rw [Stage.advance, nothing, Stage.first]

/-- A call that settles what is owed. -/
theorem Owing.settle (owing : Owing hub k due t)
    (nothing : commits hub c answer = none) (settled : k = hub → settles hub due c answer = true) :
    Paid hub (⟨c, answer⟩ :: t) := by
  rw [Owing] at owing
  by_cases here : k = hub
  · rw [if_pos here] at owing
    refine paid_of_settled ?_
    rw [stage, owing, Stage.advance, if_pos (settled here)]
  · rw [if_neg here] at owing
    exact Idle.paid (Idle.cons owing nothing)

/-- A member write ends by dropping the snapshot. -/
theorem invalidate_along (owing : Owing hub k .entry t) : Pays hub (cache (.invalidate k)) t :=
  .ask trivial fun _ _ => owing.settle rfl fun here => decide_eq_true ⟨here, rfl⟩

/-- A write to the members of a hub. -/
theorem member_along (idle : Idle hub t)
    (writes : ∀ answer, commits hub (.database d) (.ok answer) =
      if k = hub then some .entry else none)
    (throws : ∀ e, commits hub (.database d) (.error e) = none) :
    Pays hub (database d >>= fun _ => cache (.invalidate k)) t := by
  refine .bind (write_along idle) (fun answer t is => ?_) fun e t is => ?_
  · rw [writes] at is
    exact invalidate_along (owing_of_first is)
  · rw [throws] at is
    exact Idle.paid is

theorem createHub_along (idle : Idle hub t) : Pays hub (HubService.createHub owner name) t := by
  refine .bind (write_along idle) (fun row t is => ?_) fun e t is => Idle.paid is
  exact (invalidate_along (owing_of_first is)).finish fun _ _ paid => paid

/-- An idle task that reads once more ends idle. -/
theorem Idle.pays_ask {α : Type} {g : c.Answer → α} (idle : Idle hub t) (plain : c.Plain) :
    Pays hub (Prog.ask c >>= fun a => .ret (g a)) t :=
  (loads_idle.ask idle plain).finish fun _ _ held => held.1.paid

/-- A write that commits nothing the snapshot's rows depend on, and drops the snapshot. -/
theorem profile_along {d : DatabaseCall} {again : d.Answer → Bool} (idle : Idle hub t)
    (nothing : ∀ answer, commits hub (.database d) answer = none) :
    Pays hub (do
      if again (← database d) then
        cache (.invalidate k)
        return true
      else return false : HubProg Bool) t := by
  refine .bind (write_along idle) (fun answer t is => ?_) fun e t is => ?_
  · have idle : Idle hub t := by
      rw [Idle, is, nothing, Stage.first]
    by_cases done : again answer = true
    · rw [if_pos done]
      exact idle.pays_ask trivial
    · rw [if_neg done]
      exact idle.paid
  · rw [nothing] at is
    exact Idle.paid is

theorem renameHub_along {name : String} (idle : Idle hub t) :
    Pays hub (HubService.renameHub k name) t :=
  @profile_along hub t k (.renameHub k name) id idle fun _ => rfl

theorem updateHubAvatarSeed_along {avatarSeed : String} (idle : Idle hub t) :
    Pays hub (HubService.updateHubAvatarSeed k avatarSeed) t :=
  @profile_along hub t k (.updateHubAvatarSeed k avatarSeed) id idle fun _ => rfl

theorem renameChannel_along (idle : Idle hub t) :
    Pays hub (HubService.renameChannel channel name) t := by
  refine .bind (write_along idle) (fun renamed t is => ?_) fun e t is => Idle.paid is
  have idle : Idle hub t := is
  cases renamed with
  | false => exact idle.paid
  | true =>
    refine .bind (loads_idle.ask idle trivial) ?_ fun _ _ held => held.1.paid
    rintro found t ⟨idle, -⟩
    cases found with
    | none | some info => exact idle.pays_ask trivial

/-- The put of the edited snapshot settles what a channel write owes. -/
theorem put_edited_along (owing : Owing hub k due t)
    (seen : got k t = some base) (edited : Edited base due snapshot) (own : base.hubId = k) :
    Pays hub (cache (.put snapshot)) t := by
  have same : snapshot.hubId = k := by
    rw [← own]
    cases edited <;> rfl
  have edits : due ≠ .entry := by cases edited <;> exact nofun
  refine .ask (fun here => .inr ⟨base, due, ?_, ?_, edited⟩) fun answer _ => ?_
  · rw [← here, same]
    exact seen
  · rw [Owing, if_pos (same.symm.trans here)] at owing
    exact owing
  · exact owing.settle rfl fun here => decide_eq_true ⟨same.trans here, edits⟩

theorem createChannel_along {type : ChannelType} (idle : Idle hub t) :
    Pays hub (HubService.createChannel k type name) t := by
  refine .bind (write_along idle) (fun id t is => ?_) fun e t is => Idle.paid is
  have owing : Owing hub k (.created id) t := owing_of_first is
  refine bind_cache trivial fun stored _ => ?_
  have owing : Owing hub k (.created id)
      (⟨.cache (.putChannel { id, hubId := k, type, name }), .ok stored⟩ :: t) := owing.step rfl rfl
  generalize (_ :: t : HubTranscript) = t at owing ⊢
  refine bind_cache trivial fun found keyed => ?_
  cases found with
  | none => exact owing.settle rfl fun here => decide_eq_true ⟨here, nofun⟩
  | some snapshot =>
    dsimp only
    split
    · rename_i listed
      exact owing.settle rfl fun here => decide_eq_true ⟨here, id, listed, rfl⟩
    · have owing : Owing hub k (.created id) (⟨.cache (.get k), .ok (some snapshot)⟩ :: t) := by
        refine owing.step rfl (decide_eq_false ?_)
        grind
      exact (put_edited_along owing (by simp [got, gets]) (.created id) keyed).finish
        fun _ _ paid => paid

theorem deleteChannel_along {id : ChannelId} (idle : Idle hub t) :
    Pays hub (HubService.deleteChannel id k) t := by
  refine .bind (write_along idle) (fun deleted t is => ?_) fun e t is => Idle.paid is
  cases deleted with
  | false => exact Idle.paid is
  | true =>
    have owing : Owing hub k (.deleted id) t := owing_of_first is
    refine bind_cache trivial fun dropped _ => ?_
    have owing : Owing hub k (.deleted id) (⟨.cache (.invalidateChannel id), .ok dropped⟩ :: t) :=
      owing.step rfl rfl
    generalize (_ :: t : HubTranscript) = t at owing ⊢
    refine bind_cache trivial fun found keyed => ?_
    cases found with
    | none => exact owing.settle rfl fun here => decide_eq_true ⟨here, nofun⟩
    | some snapshot =>
      have owing : Owing hub k (.deleted id) (⟨.cache (.get k), .ok (some snapshot)⟩ :: t) := by
        refine owing.step rfl (decide_eq_false ?_)
        rintro ⟨-, other, -, same⟩
        nomatch same
      exact (put_edited_along owing (by simp [got, gets]) (.deleted id) keyed).finish
        fun _ _ paid => paid

theorem deleteHub_along (idle : Idle hub t) : Pays hub (HubService.deleteHub k owner) t := by
  refine .bind (getHubChannelIds_along loads_idle idle) (fun channels t idle => ?_)
    fun _ _ idle => idle.paid
  refine .bind (write_along idle) (fun deleted t is => ?_) fun e t is => Idle.paid is
  cases deleted with
  | false => exact Idle.paid is
  | true =>
    have owing : Owing hub k .entry t := owing_of_first is
    refine .bind (invalidate_along owing) (fun _ t paid => ?_) fun _ _ paid => paid
    have rest : (Prog.forEach (fun channel => cache (.invalidateChannel channel)) channels).Only
        fun c => ∃ channel, c = .cache (.invalidateChannel channel) :=
      .forEach fun channel _ => .ask ⟨channel, rfl⟩
    refine (Prog.Along.of_only rest ?_ paid).finish fun _ _ paid => paid
    rintro t _ ⟨channel, rfl⟩ paid
    refine ⟨trivial, fun answer _ due owes => ?_⟩
    rw [stage] at owes
    cases at_ : stage hub t with
    | owes due => exact paid due at_
    | idle | settled =>
      rw [at_] at owes
      nomatch owes

/-- Every call of `HubService` keeps the rule. -/
theorem service_keeps (call : ServiceCall) : (discipline hub).Keeps call := by
  have idle : Idle hub [] := rfl
  have reading : ∀ {α : Type} {p : HubProg α}, p.Along Sane (Rule hub) (fun _ => Idle hub) [] →
      Pays hub (p >>= fun _ => pure ()) [] := fun along => along.finish fun _ _ idle => idle.paid
  have writing : ∀ {α : Type} {p : HubProg α}, Pays hub p [] →
      Pays hub (p >>= fun _ => pure ()) [] := fun along => along.finish fun _ _ paid => paid
  cases call with
  | getHub k => exact reading (loads_idle.plain (HubService.getHub_plain k) idle)
  | getHubsByIds hubs => exact reading ((getHubsByIds_along loads_idle idle).mono fun _ _ => Ending.kept)
  | getChannel channel => exact reading (loads_idle.plain (HubService.getChannel_plain channel) idle)
  | getChannelsByIds channels =>
    exact reading (loads_idle.plain (HubService.getChannelsByIds_plain channels) idle)
  | getUserHubs user => exact reading (loads_idle.plain (HubService.database_plain ⟨trivial, rfl⟩) idle)
  | warmSnapshotsForHubs hubs =>
    exact (warmSnapshotsForHubs_along loads_idle idle fun _ _ => trivial).mono
      fun _ _ idle => idle.paid
  | getHubTopology k => exact reading (getHubTopology_along loads_idle idle)
  | getHubMembersWithRoles k =>
    exact reading ((getHubTopology_along loads_idle idle).finish fun _ _ idle => idle)
  | getHubChannelIds k => exact reading (getHubChannelIds_along loads_idle idle)
  | isHubMember k user => exact reading (isHubMember_along loads_idle idle)
  | getMembershipRole k user =>
    exact reading ((getMembershipRole_along loads_idle idle).mono fun _ _ => Ending.kept)
  | createHub owner name => exact writing (createHub_along idle)
  | createChannel k type name => exact writing (createChannel_along idle)
  | renameChannel channel name => exact writing (renameChannel_along idle)
  | deleteChannel channel k => exact writing (deleteChannel_along idle)
  | renameHub k name => exact writing (renameHub_along idle)
  | updateHubAvatarSeed k seed => exact writing (updateHubAvatarSeed_along idle)
  | deleteHub k owner => exact writing (deleteHub_along idle)
  | addMember k user role | removeMember k user =>
    exact member_along idle (fun _ => rfl) fun _ => rfl

end Service

/-! ## Quiescence -/

section Answers

/-- The snapshot shows the rows of the hub. -/
structure Shows (hub : HubId) (r : HubRepository) (snapshot : HubSnapshot) : Prop where
  roles : ∀ user, snapshot.memberRoles.lookup user = r.getMembershipRole hub user
  channels : ∀ id, id ∈ snapshot.channelIds ↔ id ∈ r.getHubChannelIds hub

/-- The answer of a load shows the rows; there is none if there is no hub. -/
def Answers (hub : HubId) (r : HubRepository) : Option HubSnapshot → Prop
  | some snapshot => Shows hub r snapshot
  | none => r.tables.hubs.lookup hub = none

variable {w : World} (quiet : env.thrown = none)

include quiet

theorem alone_read {α : Type} {g : d.Answer → HubProg α}
    (reads : d.exec env w.database = (.ok answer, w.database)) :
    Prog.alone exec env (database d >>= g) w = Prog.alone exec env (g answer) w := by
  have asked : Prog.alone exec env (database d) w = (.ok answer, w) := by
    have execs : exec env (.database d) w = (.ok answer, w) := by
      simp only [exec, quiet, reads]
    simp only [database, Prog.ask, Prog.alone, execs]
  exact Prog.alone_bind asked

theorem alone_buildSnapshot :
    ∃ found w', Prog.alone exec env (HubService.buildSnapshot hub) w = (.ok found, w') ∧
      Answers hub w.database found := by
  unfold HubService.buildSnapshot
  rw [alone_read quiet rfl]
  cases row : w.database.getHub hub with
  | none =>
    refine ⟨none, w, rfl, ?_⟩
    exact Option.map_eq_none_iff.mp row
  | some info =>
    let snapshot : HubSnapshot := {
      hubId := info.id
      ownerId := info.owner
      profile := info.profile
      channelIds := w.database.getHubChannelIds hub
      memberRoles := Map.gather (w.database.getHubMemberRoles hub) }
    refine ⟨some snapshot, (exec env (.cache (.put snapshot)) w).2, ?_,
      lookup_gather_roles fun _ _ => Iff.rfl, fun _ => Iff.rfl⟩
    rw [alone_read quiet rfl, alone_read quiet rfl]
    rfl

variable (cached : ∀ snapshot, w.caches.snapshots.lookup hub = some snapshot →
  Shows hub w.database snapshot)

include cached

theorem alone_loadSnapshot :
    ∃ found w', Prog.alone exec env (HubService.loadSnapshot hub) w = (.ok found, w') ∧
      Answers hub w.database found := by
  have gets : Prog.alone exec env (cache (.get hub)) w =
      (.ok (w.caches.snapshots.lookup hub), w) := rfl
  unfold HubService.loadSnapshot
  rw [Prog.alone_bind gets]
  cases found : w.caches.snapshots.lookup hub with
  | some snapshot => exact ⟨some snapshot, w, rfl, cached snapshot found⟩
  | none => exact alone_buildSnapshot quiet

/-- Where the cached snapshot shows the rows, the membership role is the database's. -/
theorem alone_getMembershipRole (user : UserId) :
    ∃ w', Prog.alone exec env (HubService.getMembershipRole hub user) w =
      (.ok (w.database.getMembershipRole hub user), w') := by
  obtain ⟨found, w', loads, answers⟩ := alone_loadSnapshot quiet cached
  refine ⟨w', ?_⟩
  unfold HubService.getMembershipRole
  rw [Prog.alone_bind loads]
  cases found with
  | none =>
    have nobody : w.database.getMembershipRole hub user = none := by
      rw [HubRepository.getMembershipRole, show w.database.tables.hubs.lookup hub = none from answers]
      rfl
    rw [nobody]
    rfl
  | some snapshot =>
    rw [← answers.roles user]
    rfl

theorem alone_isHubMember (user : UserId) :
    (Prog.alone exec env (HubService.isHubMember hub user) w).1 =
      .ok (w.database.isHubMember hub user) := by
  obtain ⟨w', asked⟩ := alone_getMembershipRole quiet cached user
  unfold HubService.isHubMember
  rw [Prog.alone_bind asked]
  rfl

theorem alone_getHubChannelIds :
    ∃ ids, (Prog.alone exec env (HubService.getHubChannelIds hub) w).1 = .ok ids ∧
      ∀ id, id ∈ ids ↔ id ∈ w.database.getHubChannelIds hub := by
  obtain ⟨found, w', loads, answers⟩ := alone_loadSnapshot quiet cached
  have topology : Prog.alone exec env (HubService.getHubTopology hub) w = _ :=
    Prog.alone_bind loads
  unfold HubService.getHubChannelIds
  cases found with
  | none =>
    rw [Prog.alone_bind topology]
    refine ⟨[], rfl, fun id => ?_⟩
    have nothing : id ∉ w.database.getHubChannelIds hub := by
      rw [HubRepository.mem_getHubChannelIds]
      rintro ⟨channel, is, rfl⟩
      obtain ⟨-, owner, existing⟩ := w.database.consistent.channels id channel is
      cases existing.symm.trans answers
    exact ⟨by simp, fun listed => absurd listed nothing⟩
  | some snapshot =>
    rw [Prog.alone_bind topology]
    exact ⟨snapshot.channelIds, rfl, answers.channels⟩

end Answers

end CacheCoherence

/-! ## A stale snapshot -/

namespace Stale

open Lobby

/-- A load has read the rows; bob is removed and the snapshot dropped; the load puts its
snapshot. -/
def moves : List (Move ServiceCall CallEnv) :=
  [.start (.isHubMember home bob)] ++ turns 0 4 ++
    [.start (.removeMember home bob)] ++ turns 1 3 ++ turns 0 2

def after : Pool HubCall HubCall.Answer Thrown ServiceCall Unit World :=
  run (Pool.step service) (Pool.idle world) moves

/-- A load, a removal and a new channel side by side, each put in time. -/
def inTime : List (Move ServiceCall CallEnv) :=
  [.start (.isHubMember home bob)] ++ turns 0 4 ++
    [.start (.removeMember home bob), .turn 1 {}] ++ turns 0 2 ++ turns 1 2 ++
    [.start (.getHubChannelIds home)] ++ turns 2 7 ++
    [.start (.createChannel home .chat "random")] ++ turns 3 5 { channelId := ⟨"random"⟩ }

def settled : Pool HubCall HubCall.Answer Thrown ServiceCall Unit World :=
  run (Pool.step service) (Pool.idle world) inTime

end Stale

end Kergit
