import Kergit.Footprint

/-!
Owners stay owners, and only they make admins.

The handlers decide from snapshots that may be long out of date, and the member writes
are insert-or-update: nothing in the database keeps an owner's row from being
overwritten or deleted.  What keeps it is that every snapshot ever taken of a hub, and
every set of rows ever read of it, shows the owner as its one owner; so no handler takes
the owner for an ordinary member, however stale its snapshot.

That holds as long as the database does not draw the id of a former hub for a new one:
`Drawn` are the ids of all hubs so far.

- `Rule`: what a handler has on record before it writes a member.
- `owned_call`: every call that keeps the rule keeps the invariant `Owned`.
- `handlers_keep`: every handler keeps the rule.
- `one_owner`: over every interleaving of all handlers.
-/

namespace Kergit

open Lib

open HubProg (session subscription cache database outside)

namespace Ownership

open Snapshots

open World (exec exec_database_ok exec_tables after)

open Footprint (createHub_only renameChannel_only renameHub_only updateHubAvatarSeed_only)

/-! ## What is on record -/

variable (hub : HubId) (user : UserId)

/-- The task was told these member roles, by a snapshot or by rows. -/
def Told (roles : Map UserId Role) (t : HubTranscript) : Prop :=
  ∃ entry ∈ t, looks hub entry.1 entry.2 = some roles ∨ roleRows hub entry.1 entry.2 = some roles

/-- The task was told that the user is not the owner, or that a hub it had seen before is
gone. -/
def NotOwner (t : HubTranscript) : Prop :=
  (∃ roles, Told hub roles t ∧ roles.lookup user ≠ some .owner) ∨ Missed hub (Seen hub) t

/-- The answer is the user behind the connection. -/
def answersUser (conn : GlobalConnId) : (c : HubCall) → Except Thrown c.Answer → Bool
  | .session (.sessionOfConnection k), .ok (.ok found) => decide (k = conn ∧ found = user)
  | _, _ => false

variable (request : Request)

/-- The task is a role update to admin, and was told that the user behind its connection is
the owner. -/
def Granted (t : HubTranscript) : Prop :=
  ∃ conn actor roles, request = .updateHubMemberRole conn hub user .admin ∧
    (∃ entry ∈ t, answersUser actor conn entry.1 entry.2 = true) ∧
    Told hub roles t ∧ roles.lookup actor = some .owner

/-- The request edits cached snapshots. -/
def Edits : Prop :=
  (∃ hub type name, request.Writes (.createChannel hub type name)) ∨
    ∃ channel hub, request.Writes (.deleteChannel channel hub)

/-- A role update writes for a member its last look-up showed. -/
def Updates (t : HubTranscript) : Prop :=
  ∀ conn target role, request = .updateHubMemberRole conn hub target role →
    ∃ roles role, lastLook hub t = some roles ∧ roles.lookup user = some role

/-- A task puts snapshots it has built, or edited ones with member roles it was told, asks for
members of hubs it has seen, invites to hubs it was told of, and writes or removes members it
has on record as no owner. -/
def Rule (t : HubTranscript) : HubCall → Prop
  | .cache (.put snapshot) =>
    Built snapshot t ∨ Edits request ∧ Told snapshot.hubId snapshot.memberRoles t
  | .database (.getHubMemberRoles k) => Seen k t
  | .database (.getHubMemberRolesByHubIds ks) => ∀ k ∈ ks, Seen k t
  | .database (.addMember k v role) =>
    role ≠ .owner ∧ NotOwner k v t ∧ (role = .admin → Granted k v request t) ∧
      Updates k v request t
  | .database (.removeMember k v) => NotOwner k v t
  | .outside (.createInvite k) => ∃ roles, Told k roles t
  | _ => True

def discipline : Discipline workers where
  Possible := Sane
  Rule := Rule
  End := fun _ _ _ => True
  possible := exec_sane

/-! ## The invariant -/

/-- The call created the hub. -/
def creates : (c : HubCall) → Except Thrown c.Answer → Bool
  | .database (.createHub _ _), .ok row => decide (row.id = hub)
  | _, _ => false

def createdBy : WorkerEvent → Bool
  | .called _ c answer => creates hub c answer
  | .began _ _ | .returned _ _ => false

variable (past : List HubId)

/-- A hub of the past, or one created since. -/
def Drawn (s : WorkerScene) : Prop := hub ∈ past ∨ ∃ event ∈ s.history, createdBy hub event = true
deriving Decidable

def asksForHub : HubCall → Bool
  | .database (.createHub _ _) => true
  | _ => false

/-- The database draws no id twice. -/
def New (s : WorkerScene) (_ : Nat) (env : CallEnv) (c : HubCall) : Prop :=
  asksForHub c = true → ¬ Drawn env.hubId past s
deriving Decidable

/-- The roles show the owner as the one owner. -/
structure Fair (owner : UserId) (roles : Map UserId Role) : Prop where
  owns : roles.lookup owner = some .owner
  only : ∀ user, roles.lookup user = some .owner → user = owner

/-- The roles are fair to whoever owns the hub now. -/
def FairTo (w : World) (roles : Map UserId Role) : Prop :=
  ∀ owner, w.database.tables.hubs.lookup hub = some owner → Fair owner roles

/-- What the process starts from: a hub's owner has the owner role, cached snapshots are
fair, and all ids are ids of the past. -/
structure Sound (w : World) : Prop where
  drawn : ∀ hub owner, w.database.tables.hubs.lookup hub = some owner → hub ∈ past
  owners : ∀ hub owner, w.database.tables.hubs.lookup hub = some owner →
    w.database.getMembershipRole hub owner = some .owner
  cached : ∀ hub snapshot, w.caches.snapshots.lookup hub = some snapshot →
    hub ∈ past ∧ FairTo hub w snapshot.memberRoles
  invites : ∀ token hub, w.invites.lookup token = some hub → hub ∈ past

structure Owned (s : WorkerScene) : Prop where
  drawn : ∀ hub owner, s.shared.database.tables.hubs.lookup hub = some owner → Drawn hub past s
  owners : ∀ hub owner, s.shared.database.tables.hubs.lookup hub = some owner →
    s.shared.database.getMembershipRole hub owner = some .owner
  cached : ∀ hub snapshot, s.shared.caches.snapshots.lookup hub = some snapshot →
    Drawn hub past s ∧ FairTo hub s.shared snapshot.memberRoles
  invites : ∀ token hub, s.shared.invites.lookup token = some hub → Drawn hub past s
  seen : ∀ i hub, Seen hub (s.transcript i) → Drawn hub past s
  told : ∀ i hub roles, Told hub roles (s.transcript i) →
    Drawn hub past s ∧ FairTo hub s.shared roles
  missed : ∀ i hub, Missed hub (Seen hub) (s.transcript i) →
    s.shared.database.tables.hubs.lookup hub = none

/-! ## Records only grow -/

section Records

variable {hub user} {roles : Map UserId Role} {t t' : HubTranscript}
  {entry : (c : HubCall) × Except Thrown c.Answer}

theorem Told.grown (told : Told hub roles t) (longer : t <:+ t') : Told hub roles t' := by
  obtain ⟨entry, listed, is⟩ := told
  exact ⟨entry, longer.subset listed, is⟩

theorem seen_grown (seen : Seen hub t) (longer : t <:+ t') : Seen hub t' := by
  obtain ⟨entry, listed, is⟩ := seen
  exact ⟨entry, longer.subset listed, is⟩

theorem NotOwner.cons (not : NotOwner hub user t) : NotOwner hub user (entry :: t) := by
  rcases not with ⟨roles, told, is⟩ | ⟨earlier, seen, before⟩
  · exact .inl ⟨roles, told.grown (List.suffix_cons _ _), is⟩
  · exact .inr ⟨earlier, seen, before.trans (List.suffix_cons _ _)⟩

theorem told_cons : Told hub roles (entry :: t) ↔
    (looks hub entry.1 entry.2 = some roles ∨ roleRows hub entry.1 entry.2 = some roles) ∨
      Told hub roles t := by
  simp [Told]

theorem seen_cons : Seen hub (entry :: t) ↔ shows hub entry.1 entry.2 = true ∨ Seen hub t := by
  simp [Seen]

theorem missed_cons : Missed hub (Seen hub) (entry :: t) ↔
    (entry = ⟨.database (.getHub hub), .ok none⟩ ∧ Seen hub t) ∨ Missed hub (Seen hub) t := by
  simp only [Missed, List.suffix_cons_iff]
  grind

theorem seen_of_missed (missed : Missed hub (Seen hub) t) : Seen hub t := by
  obtain ⟨earlier, seen, longer⟩ := missed
  exact seen_grown seen ((List.suffix_cons _ _).trans longer)

theorem told_of_lastLook (shown : lastLook hub t = some roles) : Told hub roles t := by
  obtain ⟨entry, listed, is⟩ := lastLook_mem shown
  exact ⟨entry, listed, .inl is⟩

/-- What a snapshot is built from was told. -/
theorem told_of_rows {known : Rows} (is : rows hub t = some known)
    (shown : known.roles = some roles) : Told hub roles t := by
  induction t generalizing known with
  | nil => nomatch is
  | cons entry earlier ih =>
    rw [rows, Rows.advance] at is
    grind [Option.map_eq_some_iff, told_cons]

end Records

/-! ## What one call does to hubs and members -/

section Effects

variable {hub user} {env : CallEnv} {c : HubCall} {w : World} {owner : UserId}

/-- A hub that exists after a call existed before, or the call created it. -/
theorem hubs_exec (is : (exec env c w).2.database.tables.hubs.lookup hub = some owner) :
    w.database.tables.hubs.lookup hub = some owner ∨
      asksForHub c = true ∧ env.hubId = hub ∧ creates hub c (exec env c w).1 = true ∧
        (exec env c w).2.database.getMembershipRole hub owner = some .owner := by
  rw [HubRepository.getMembershipRole_eq]
  have step := exec_tables env c w
  generalize (exec env c w).1 = answer at step ⊢
  generalize (exec env c w).2.database.tables = tables at step is ⊢
  cases step with
  | createHub maker name unused =>
    rw [HubTables.withHub, Map.lookup_insert_if] at is
    split at is
    · rename_i same
      cases is
      subst same
      exact .inr ⟨rfl, rfl, decide_eq_true rfl, by simp [HubTables.withHub]⟩
    · exact .inl is
  | deleteHub k deleter owned =>
    rw [HubTables.withoutHub, Map.lookup_erase_if] at is
    split at is
    · cases is
    · exact .inl is
  | same | addMember | removeMember | createChannel | renameChannel | deleteChannel | profiles =>
    exact .inl is

/-- Nobody but the owner has the role. -/
theorem owner_unique (existing : w.database.tables.hubs.lookup hub = some owner)
    (is : w.database.getMembershipRole hub user = some .owner) : user = owner := by
  rw [HubRepository.getMembershipRole_eq] at is
  obtain ⟨_, existing', rank⟩ := w.database.consistent.members hub user _ is
  rw [rank rfl]
  exact Option.some.inj (existing'.symm.trans existing)

/-- The call writes or removes this member. -/
def Handles (hub : HubId) (user : UserId) (c : HubCall) : Prop :=
  (∃ role, c = .database (.addMember hub user role)) ∨ c = .database (.removeMember hub user)

/-- A member of a hub that still exists keeps the role unless the call handles it. -/
theorem member_exec {role : Role} (was : w.database.getMembershipRole hub user = some role)
    (existing : (exec env c w).2.database.tables.hubs.lookup hub = some owner)
    (other : ¬ Handles hub user c) :
    (exec env c w).2.database.getMembershipRole hub user = some role := by
  rw [HubRepository.getMembershipRole_eq] at was ⊢
  obtain ⟨_, existed, -⟩ := w.database.consistent.members _ _ _ was
  have step := exec_tables env c w
  generalize (exec env c w).1 = answer at step
  generalize (exec env c w).2.database.tables = tables at step existing ⊢
  cases step with
  | createHub maker name unused =>
    rw [HubTables.withHub, Map.lookup_insert_if, if_neg]
    · exact was
    · grind
  | deleteHub k deleter owned =>
    rw [HubTables.withoutHub, Map.lookup_erase_if] at existing
    split at existing
    · cases existing
    · rename_i differs
      rw [HubTables.withoutHub, Map.lookup_filter, was, Option.filter_eq_some_iff]
      exact ⟨rfl, decide_eq_true differs⟩
  | addMember k v _ granted =>
    rw [Map.lookup_insert_if, if_neg]
    · exact was
    · intro key
      obtain ⟨rfl, rfl⟩ := Prod.mk.inj key
      exact other (.inl ⟨granted, rfl⟩)
  | removeMember k v =>
    rw [Map.lookup_erase_if, if_neg]
    · exact was
    · intro key
      obtain ⟨rfl, rfl⟩ := Prod.mk.inj key
      exact other (.inr rfl)
  | same | createChannel | renameChannel | deleteChannel | profiles => exact was

/-- The role of admin comes by a write of it. -/
theorem admin_exec
    (is : (exec env c w).2.database.getMembershipRole hub user = some .admin) :
    w.database.getMembershipRole hub user = some .admin ∨
      c = .database (.addMember hub user .admin) ∧
        ∃ owner, w.database.tables.hubs.lookup hub = some owner := by
  rw [HubRepository.getMembershipRole_eq] at is ⊢
  have step := exec_tables env c w
  generalize (exec env c w).1 = answer at step
  generalize (exec env c w).2.database.tables = tables at step is
  cases step with
  | createHub maker name unused =>
    rw [HubTables.withHub, Map.lookup_insert_if] at is
    split at is
    · cases is
    · exact .inl is
  | deleteHub k deleter owned =>
    rw [HubTables.withoutHub, Map.lookup_filter, Option.filter_eq_some_iff] at is
    exact .inl is.1
  | addMember k v owner granted existing | removeMember k v =>
    grind
  | same | createChannel | renameChannel | deleteChannel | profiles => exact .inl is

end Effects

/-! ## One call -/

variable {past} {s : WorkerScene} {i j : Nat} {env : CallEnv} {c : HubCall} {request : Request}

theorem Drawn.log {w : World} {hub : HubId} (drawn : Drawn hub past s) :
    Drawn hub past (s.log event w) := by
  rcases drawn with old | ⟨e, listed, created⟩
  · exact .inl old
  · exact .inr ⟨e, List.mem_cons_of_mem _ listed, created⟩

section Call

variable (owned : Owned past s)

include owned

variable {hub : HubId}

/-- The rows of a hub are fair. -/
theorem Owned.rows_fair
    (are : ∀ user, roles.lookup user = s.shared.database.getMembershipRole hub user) :
    FairTo hub s.shared roles := by
  intro owner existing
  refine ⟨(are owner).trans (owned.owners hub owner existing), fun user is => ?_⟩
  rw [are] at is
  exact owner_unique existing is

/-- Whoever is on record as no owner owns nothing. -/
theorem Owned.not_owner {user owner : UserId} (not : NotOwner hub user (s.transcript i))
    (existing : s.shared.database.tables.hubs.lookup hub = some owner) : user ≠ owner := by
  rintro rfl
  rcases not with ⟨roles, told, other⟩ | missed
  · exact other ((owned.told i hub roles told).2 user existing).owns
  · nomatch (owned.missed i hub missed).symm.trans existing

/-- What shows a hub shows one that was drawn. -/
theorem Owned.shows_drawn (is : shows hub c (exec env c s.shared).1 = true) :
    Drawn hub past s := by
  have row {k : HubId} {row : Hub} (found : s.shared.database.getHub k = some row) :
      row.id = k ∧ Drawn k past s := by
    obtain ⟨owner, existing, rfl⟩ := Option.map_eq_some_iff.mp found
    exact ⟨rfl, owned.drawn k owner existing⟩
  have listed {ids : List HubId} (shown : (ids.filterMap s.shared.database.getHub).any
      (fun row => row.id = hub) = true) : Drawn hub past s := by
    obtain ⟨_, listed, same⟩ := List.any_eq_true.mp shown
    obtain ⟨k, -, found⟩ := List.mem_filterMap.mp listed
    exact of_decide_eq_true same ▸ (row found).1 ▸ (row found).2
  generalize answered : (exec env c s.shared).1 = answer at is
  unfold shows at is
  split at is
  · obtain rfl := of_decide_eq_true is
    exact (owned.cached _ _ (Except.ok.inj answered)).1
  · obtain rfl := of_decide_eq_true is
    exact (row (Except.ok.inj (exec_database_ok answered))).2
  · cases exec_database_ok answered
    exact listed is
  · cases exec_database_ok answered
    exact listed is
  · obtain rfl := of_decide_eq_true is
    have found := World.exec_outside_ok answered
    exact owned.invites _ _ (Option.ite_none_left_eq_some.mp found).2
  · nomatch is

variable (rule : Rule request (s.transcript i) c) (new : New past s i env c)

include new

omit owned in
/-- A hub that was drawn before is there after a call only if it was there before. -/
theorem New.existing {owner : UserId} (drawn : Drawn hub past s)
    (is : (exec env c s.shared).2.database.tables.hubs.lookup hub = some owner) :
    s.shared.database.tables.hubs.lookup hub = some owner := by
  rcases hubs_exec is with before | ⟨asks, rfl, -⟩
  · exact before
  · exact absurd drawn (new asks)

omit owned in
theorem New.fair_after {roles : Map UserId Role} (drawn : Drawn hub past s)
    (fair : FairTo hub s.shared roles) : FairTo hub (exec env c s.shared).2 roles :=
  fun owner is => fair owner (new.existing drawn is)

omit new in
include rule in
/-- The members a task reads are those of a hub it has seen. -/
theorem Owned.rows_drawn (read : roleRows hub c (exec env c s.shared).1 = some roles) :
    Drawn hub past s := by
  generalize (exec env c s.shared).1 = answer at read
  unfold roleRows at read
  split at read
  · obtain ⟨rfl, -⟩ := Option.ite_none_right_eq_some.mp read
    exact owned.seen i _ rule
  · obtain ⟨listed, -⟩ := Option.ite_none_right_eq_some.mp read
    exact owned.seen i hub (rule hub listed)
  · nomatch read

omit new in
include rule in
/-- So what it is told is fair. -/
theorem Owned.told_now {roles : Map UserId Role}
    (is : looks hub c (exec env c s.shared).1 = some roles ∨
      roleRows hub c (exec env c s.shared).1 = some roles) :
    Drawn hub past s ∧ FairTo hub s.shared roles := by
  have ofRows : roleRows hub c (exec env c s.shared).1 = some roles →
      Drawn hub past s ∧ FairTo hub s.shared roles :=
    fun read => ⟨owned.rows_drawn rule read, owned.rows_fair (roleRows_exec read)⟩
  rcases is with shown | read
  · rcases looks_exec shown with ⟨snapshot, cached, rfl⟩ | read
    · exact owned.cached hub snapshot cached
    · exact ofRows read
  · exact ofRows read

include rule

/-- Owners keep their row. -/
theorem Owned.owners_after {owner : UserId}
    (is : (exec env c s.shared).2.database.tables.hubs.lookup hub = some owner) :
    (exec env c s.shared).2.database.getMembershipRole hub owner = some .owner := by
  rcases hubs_exec is with before | ⟨-, -, -, now⟩
  · refine member_exec (owned.owners hub owner before) is ?_
    rintro (⟨role, rfl⟩ | rfl)
    · exact owned.not_owner rule.2.1 before rfl
    · exact owned.not_owner rule before rfl
  · exact now

theorem owned_call : Owned past (after s i env c) where
  drawn := by
    intro hub owner is
    rcases hubs_exec is with before | ⟨-, -, created, -⟩
    · exact (owned.drawn hub owner before).log
    · exact .inr ⟨_, List.mem_cons_self, created⟩
  owners := fun hub owner is => owned.owners_after rule new is
  cached := by
    intro hub snapshot is
    have changed := @snapshot_exec hub env c s.shared
    rcases changed with kept | ⟨put, rfl, here, now⟩ | ⟨-, none⟩
    · obtain ⟨drawn, fair⟩ := owned.cached hub snapshot (kept ▸ is)
      exact ⟨drawn.log, new.fair_after drawn fair⟩
    · obtain rfl := Option.some.inj (now.symm.trans is)
      subst here
      obtain ⟨drawn, fair⟩ := owned.told i _ _ (rule.elim (told_of_rows · rfl) And.right)
      exact ⟨drawn.log, new.fair_after drawn fair⟩
    · cases none.symm.trans is
  invites := by
    intro token hub is
    refine Drawn.log ?_
    cases c with
    | outside c =>
      cases threw : env.thrown with
      | some e =>
        simp only [Scene.log_shared, exec, threw] at is
        exact owned.invites token hub is
      | none =>
        simp only [Scene.log_shared, exec, threw] at is
        cases c with
        | createInvite k =>
          simp only [OutsideCall.exec, Map.lookup_insert_if] at is
          split at is
          · cases is
            obtain ⟨roles, told⟩ := rule
            exact (owned.told i hub roles told).1
          · exact owned.invites token hub is
        | revokeInvitesForHub k =>
          simp only [OutsideCall.exec, Map.lookup_filter, Option.filter_eq_some_iff] at is
          exact owned.invites token hub is.1
        | _ => exact owned.invites token hub is
    | database d =>
      have same : (exec env (.database d) s.shared).2.invites = s.shared.invites := by
        rcases @World.exec_database_eq env s.shared d with same | ⟨-, same⟩ <;> rw [same]
      exact owned.invites token hub (same ▸ is)
    | session c | subscription c | cache c => exact owned.invites token hub is
  seen := by
    intro j hub seen
    rw [Scene.transcript_log_called] at seen
    split at seen
    · rcases seen_cons.mp seen with now | before
      · exact (owned.shows_drawn now).log
      · exact (owned.seen j hub before).log
    · exact (owned.seen j hub seen).log
  told := by
    intro j hub roles told
    rw [Scene.transcript_log_called] at told
    have known : Drawn hub past s ∧ FairTo hub s.shared roles := by
      split at told
      · rcases told_cons.mp told with now | before
        · exact owned.told_now rule now
        · exact owned.told j hub roles before
      · exact owned.told j hub roles told
    exact ⟨known.1.log, new.fair_after known.1 known.2⟩
  missed := by
    intro j hub missed
    rw [Scene.transcript_log_called] at missed
    have gone : s.shared.database.tables.hubs.lookup hub = none ∧ Drawn hub past s := by
      split at missed
      · rename_i mine
        subst mine
        rcases missed_cons.mp missed with ⟨now, seen⟩ | before
        · refine ⟨?_, owned.seen i hub seen⟩
          obtain ⟨rfl, answer⟩ := Sigma.mk.inj now
          have absent := exec_database_ok (eq_of_heq answer)
          exact Option.map_eq_none_iff.mp (Except.ok.inj absent)
        · exact ⟨owned.missed i hub before, owned.seen i hub (seen_of_missed before)⟩
      · exact ⟨owned.missed j hub missed, owned.seen j hub (seen_of_missed missed)⟩
    cases is : (after s i env c).shared.database.tables.hubs.lookup hub with
    | none => rfl
    | some owner =>
      cases gone.1.symm.trans (new.existing gone.2 is)

end Call

theorem Owned.of_quiet (owned : Owned past s) (quiet : event.Quiet) :
    Owned past (s.log event s.shared) where
  drawn := fun hub owner is => (owned.drawn hub owner is).log
  owners := owned.owners
  cached := fun hub snapshot is =>
    ⟨(owned.cached hub snapshot is).1.log, (owned.cached hub snapshot is).2⟩
  invites := fun token hub is => (owned.invites token hub is).log
  seen := fun j hub seen => (owned.seen j hub (Scene.transcript_log_quiet quiet ▸ seen)).log
  told := by
    intro j hub roles told
    rw [Scene.transcript_log_quiet quiet] at told
    exact ⟨(owned.told j hub roles told).1.log, (owned.told j hub roles told).2⟩
  missed := by
    intro j hub missed
    rw [Scene.transcript_log_quiet quiet] at missed
    exact owned.missed j hub missed

theorem owned_preserved :
    discipline.Preserves (fun _ _ => True) (New past) (Owned past) where
  start := fun _ _ _ owned _ _ => owned.of_quiet trivial
  call := fun _ _ _ _ _ owned _ _ rule new => owned_call owned rule new
  ends := fun _ _ _ _ owned _ _ _ => owned.of_quiet trivial

/-! ## Every handler keeps the rule -/

section Handlers

variable {conn : GlobalConnId} {hub : HubId} {user target : UserId} {channel : ChannelId}
  {t : HubTranscript} {K : HubTranscript → Prop}

/-- Reads keep whatever only grows. -/
theorem loads (grows : ∀ t entry, K t → K (entry :: t)) : Loads Seen (Rule request) K where
  reads := by
    intro t c kept plain
    refine ⟨?_, fun answer _ => grows t _ kept⟩
    cases c with
    | cache c =>
      cases c with
      | put snapshot => exact plain.elim
      | _ => trivial
    | database d =>
      obtain ⟨reads, asks⟩ := plain
      cases d with
      | getHubMemberRoles k | getHubMemberRolesByHubIds ks => nomatch asks
      | addMember k v role | removeMember k v => exact reads.elim
      | _ => trivial
    | session c | subscription c | outside c => exact plain.elim
  roles := by
    intro t d hubs kept asks seen
    refine ⟨?_, fun answer => grows t _ kept⟩
    cases d with
    | getHubMemberRoles k =>
      cases asks
      exact seen k List.mem_cons_self
    | getHubMemberRolesByHubIds ks =>
      cases asks
      exact seen
    | _ => nomatch asks
  puts := fun t snapshot kept built => ⟨.inl built, fun answer => grows t _ kept⟩
  seen := fun _ _ seen => seen
  grown := fun _ _ _ seen longer => seen_grown seen longer

theorem loads_any : Loads Seen (Rule request) fun _ => True := loads fun _ _ _ => trivial

theorem plain_free (c : HubCall) (plain : c.Plain) (t : HubTranscript) : Rule request t c :=
  (loads_any.reads t c trivial plain).1

/-- A program that needs nothing on record. -/
theorem free_always {α : Type} {p : HubProg α} (free : p.Only fun c => ∀ t, Rule request t c) :
    p.Always Sane (Rule request) :=
  fun _ => (Prog.Along.of_only free (K := fun _ => True)
    (fun t _ free _ => ⟨free t, fun _ _ => trivial⟩) trivial).mono fun _ _ _ => trivial

theorem plain_always {α : Type} {p : HubProg α} (plain : p.Only HubCall.Plain) :
    p.Always Sane (Rule request) := free_always (plain.mono plain_free)

theorem getMembershipRole_always :
    (HubService.getMembershipRole hub user).Always Sane (Rule request) :=
  fun _ => (getMembershipRole_along loads_any trivial).mono fun _ _ _ => trivial

theorem getHubChannelIds_always : (HubService.getHubChannelIds hub).Always Sane (Rule request) :=
  fun _ => getHubChannelIds_along loads_any trivial

/-! ### State syncs -/

theorem collectHubInputs_along (seen : ∀ hub ∈ hubs, Seen hub.id t) :
    (Handlers.collectHubInputs hubs).Along Sane (Rule request) (fun _ _ => True) t := by
  refine .seq (warmSnapshotsForHubs_along loads_any trivial seen) fun _ t _ => ?_
  refine Prog.Always.bind (.collect fun hub _ => getHubTopology_along loads_any trivial)
    (fun topologies => ?_) t
  refine .bind (.ask trivial) fun _ => ?_
  exact .bind (plain_always (HubService.getChannelsByIds_plain _)) fun _ _ => trivial

theorem buildStateSyncForUser_always :
    (Handlers.buildStateSyncForUser user).Always Sane (Rule request) := by
  refine .bind (.ask trivial) fun _ t => ?_
  refine .seq (loads_any.ask (c := .database (.getUserHubs user)) trivial ⟨trivial, rfl⟩) ?_
  rintro hubs _ ⟨-, -, rfl⟩
  refine collectHubInputs_along fun hub listed => ?_
  exact ⟨_, List.mem_cons_self, List.any_eq_true.mpr ⟨hub, listed, decide_eq_true rfl⟩⟩

theorem buildStateSyncForRequestedHubs_always :
    (Handlers.buildStateSyncForRequestedHubs user hubs).Always Sane (Rule request) := by
  refine .bind (.ask trivial) fun _ => ?_
  refine .bind (.bind (.collect fun hub => ?_) fun _ _ => trivial) fun authorized t => ?_
  · exact .bind getMembershipRole_always fun _ _ => trivial
  · refine .seq (getHubsByIds_along loads_any trivial) ?_
    rintro found t ⟨-, seen⟩
    exact collectHubInputs_along seen

theorem ownConnections_always :
    (Handlers.ownConnections conn user).Always Sane (Rule request) := by
  refine .bind (.ask trivial) fun conns => ?_
  split <;> exact fun _ => trivial

theorem enterHub_always : (Handlers.enterHub conn user hub).Always Sane (Rule request) := by
  refine .bind ownConnections_always fun conns => ?_
  refine .bind (.forEach fun _ => .bind (.ask trivial) fun _ _ => trivial) fun _ => ?_
  exact .bind buildStateSyncForRequestedHubs_always fun _ _ => trivial

/-! ### Handlers that write no members -/

/-- An edited snapshot has the member roles of the cached one. -/
theorem editSnapshot_always {α : Type} {f : Option HubSnapshot → HubProg α}
    (missed : (f none).Always Sane (Rule request))
    (found : ∀ snapshot t, snapshot.hubId = hub → Told hub snapshot.memberRoles t →
      (f (some snapshot)).Along Sane (Rule request) (fun _ _ => True) t) :
    (cache (.get hub) >>= f).Always Sane (Rule request) := by
  intro t
  refine bind_cache trivial fun looked keyed => ?_
  cases looked with
  | none => exact missed _
  | some snapshot =>
    refine found snapshot _ keyed ⟨_, List.mem_cons_self, .inl ?_⟩
    simp [looks]

theorem serviceCreateChannel_always {type : ChannelType} {name : String} (edits : Edits request) :
    (HubService.createChannel hub type name).Always Sane (Rule request) := by
  refine .bind (.ask trivial) fun id => ?_
  refine .bind (.ask trivial) fun _ => ?_
  refine editSnapshot_always (fun _ => trivial) fun snapshot t keyed told => ?_
  dsimp only
  split
  · trivial
  · subst keyed
    exact .bind_ask (.inr ⟨edits, told⟩) (fun _ _ => trivial) fun _ _ => trivial

theorem serviceDeleteChannel_always (edits : Edits request) :
    (HubService.deleteChannel channel hub).Always Sane (Rule request) := by
  refine .bind (.ask trivial) fun deleted => ?_
  cases deleted with
  | false => exact fun _ => trivial
  | true =>
    refine .bind (.ask trivial) fun _ => ?_
    refine editSnapshot_always (fun _ => trivial) fun snapshot t keyed told => ?_
    subst keyed
    exact .bind_ask (.inr ⟨edits, told⟩) (fun _ _ => trivial) fun _ _ => trivial

theorem serviceDeleteHub_always :
    (HubService.deleteHub hub user).Always Sane (Rule request) := by
  refine .bind getHubChannelIds_always fun ids => ?_
  refine .bind (.ask trivial) fun deleted => ?_
  cases deleted with
  | false => exact fun _ => trivial
  | true =>
    refine .bind (.ask trivial) fun _ => ?_
    exact .bind (.forEach fun _ => .ask trivial) fun _ _ => trivial

/-- The parts of a handler that neither writes members nor invites need nothing on record. -/
theorem part_always
    (quiet : ∀ hub user, (∀ role, ¬ request.Writes (.addMember hub user role)) ∧
      ¬ request.Writes (.removeMember hub user) ∧ ¬ request.Invites hub)
    ⦃α : Type⦄ (p : HubProg α) (part : request.Part p) : p.Always Sane (Rule request) := by
  cases part with
  | ask asks =>
    apply Prog.Always.ask
    rename_i c
    intro t
    cases c with
    | cache c | database d => exact asks.elim
    | session c | subscription c => trivial
    | outside c =>
      cases c with
      | createInvite hub => exact asks.elim
      | _ => trivial
  | invite invites => exact absurd invites (quiet _ ⟨""⟩).2.2
  | plain plain => exact plain_always plain
  | getMembershipRole hub user => exact getMembershipRole_always
  | isHubMember hub user => exact fun _ => isHubMember_along loads_any trivial
  | getHubChannelIds hub => exact getHubChannelIds_always
  | syncForUser user => exact buildStateSyncForUser_always
  | syncForHubs user hubs => exact buildStateSyncForRequestedHubs_always
  | createHub writes => exact free_always (createHub_only plain_free fun _ => trivial)
  | createChannel writes => exact serviceCreateChannel_always (.inl ⟨_, _, _, writes⟩)
  | renameChannel writes => exact free_always (renameChannel_only plain_free fun _ => trivial)
  | deleteChannel writes => exact serviceDeleteChannel_always (.inr ⟨_, _, writes⟩)
  | renameHub writes => exact free_always (renameHub_only plain_free fun _ => trivial)
  | updateHubAvatarSeed writes =>
    exact free_always (updateHubAvatarSeed_only plain_free fun _ => trivial)
  | deleteHub writes => exact serviceDeleteHub_always
  | addMember writes => exact absurd writes ((quiet _ _).1 _)
  | removeMember writes => exact absurd writes (quiet _ _).2.1

/-! ### Handlers of members -/

theorem evict_always {ops : List DeltaOp} :
    (Handlers.evict hub conns ops).Always Sane (Rule request) := by
  refine .bind getHubChannelIds_always fun channels => ?_
  refine .bind (.forEach fun conn => ?_) fun _ => ?_
  · refine .bind (.bind (.ask trivial) fun _ _ => trivial) fun _ => ?_
    exact .forEach fun channel => .bind (.ask trivial) fun _ _ => trivial
  · exact .bind (.ask trivial) fun _ _ => trivial

/-- A member write on record, and what follows. -/
theorem bind_write {α : Type} {f : Except Thrown Unit → HubProg α}
    (rule : Rule request t (.database d)) (rest : ∀ r, (f r).Always Sane (Rule request)) :
    ((database d >>= fun _ => cache (.invalidate hub)).attempt >>= f).Along Sane (Rule request)
      (fun _ _ => True) t := by
  refine .bind_attempt (Q := fun _ _ => True) ⟨rule, fun answer _ => ?_⟩ fun r t _ => rest r t
  cases answer with
  | error e => trivial
  | ok _ => exact .ask (c := HubCall.cache (.invalidate hub)) trivial fun _ _ => trivial

/-- Somebody whose role was found to be another is on record as no owner. -/
theorem notOwner_of_found {role : Role} (answered : RoleAnswered K hub user t (some role))
    (other : role ≠ .owner) : NotOwner hub user t := by
  obtain ⟨roles, shown, is⟩ := answered.found
  refine .inl ⟨roles, told_of_lastLook shown, fun owns => other ?_⟩
  exact Option.some.inj (is.symm.trans owns)

theorem leaveHub_always : (Handlers.leaveHub conn hub).Always Sane (Rule request) := by
  refine .bind (.ask trivial) fun found => ?_
  cases found with
  | error e => exact fun _ => trivial
  | ok user =>
    have leaves : ∀ t, NotOwner hub user t → (Handlers.giveUpMembership conn hub user).Along Sane
        (Rule request) (fun _ _ => True) t := by
      intro t not
      refine bind_write not fun removed => ?_
      match removed with
      | .error (.exception _) | .error .unknown => exact fun _ => trivial
      | .ok _ => exact .bind ownConnections_always fun conns => evict_always
    intro t
    refine .seq (getMembershipRole_along loads_any trivial) ?_
    rintro role t ⟨-, answered⟩
    match role with
    | none | some .owner => trivial
    | some .admin | some .user => exact leaves t (notOwner_of_found answered nofun)

theorem kickHubMember_always :
    (Handlers.kickHubMember conn hub target).Always Sane (Rule request) := by
  -- What is on record from the authorization on: the target is no owner.
  have authorize : ∀ t, (Handlers.authorizeKick conn hub target).Along Sane (Rule request)
      (fun r t => r = .ok (.ok ()) → NotOwner hub target t) t := by
    intro t
    refine .bind_ask trivial (fun found _ => ?_) fun _ _ => nofun
    cases found with
    | error e => exact nofun
    | ok actor =>
      dsimp only
      split
      · exact nofun
      · refine .bind (getMembershipRole_always _) (fun actorRole t _ => ?_) fun _ _ _ => nofun
        cases actorRole with
        | none => exact nofun
        | some actorRole =>
          refine .bind (getMembershipRole_along loads_any trivial) ?_ fun _ _ _ => nofun
          rintro targetRole t ⟨-, answered⟩
          cases targetRole with
          | none => exact nofun
          | some targetRole =>
            dsimp only
            split
            · rename_i allowed
              unfold canKickHubMember at allowed
              exact fun _ => notOwner_of_found answered (by grind)
            · exact nofun
  have kept : Loads Seen (Rule request) (NotOwner hub target) :=
    loads fun t entry not => not.cons
  have asks : ∀ {c : HubCall} {t}, (∀ t, Rule request t c) → NotOwner hub target t →
      (Prog.ask c : HubProg c.Answer).Along Sane (Rule request) (fun _ => NotOwner hub target) t :=
    fun free not => .ask (free _) fun _ _ => not.cons
  have voice : ∀ t, NotOwner hub target t → (Handlers.kickFromVoice hub target).Along Sane
      (Rule request) (fun _ => NotOwner hub target) t := by
    intro t not
    refine .bind (asks (fun _ => trivial) not) (fun seated t not => ?_) fun _ _ not => not
    cases seated with
    | none => exact not
    | some channel =>
      refine .bind (kept.plain (HubService.getChannel_plain channel) not) (fun info t not => ?_)
        fun _ _ not => not
      cases info with
      | none => exact not
      | some info =>
        dsimp only
        split
        · exact asks (fun _ => trivial) not
        · exact not
  intro t
  refine .seq (authorize t) fun allowed t not => ?_
  cases allowed with
  | error refusal => trivial
  | ok _ =>
    refine .seq (voice t (not rfl)) fun kicked t not => ?_
    cases kicked with
    | false => trivial
    | true =>
      refine bind_write not fun removed => ?_
      cases removed with
      | error e => exact fun _ => trivial
      | ok _ =>
        refine .bind_attempt (.ask trivial) fun _ => ?_
        exact .bind (.ask trivial) fun conns => evict_always

/-- Who joins was not found in the hub, or the hub of the invite was not found. -/
theorem joinHubByInvite_always {code : String} :
    (Handlers.joinHubByInvite conn code).Always Sane (Rule (.joinHubByInvite conn code)) := by
  refine .bind (.ask trivial) fun found => ?_
  cases found with
  | error e => exact fun _ => trivial
  | ok user =>
    intro t
    refine .bind_ask trivial (fun resolved _ => ?_) fun _ _ => trivial
    cases resolved with
    | none => trivial
    | some hub =>
      have seen : Seen hub (⟨.outside (.resolveInvite (Handlers.inviteToken code)),
          .ok (some hub)⟩ :: t) := ⟨_, List.mem_cons_self, decide_eq_true rfl⟩
      have loads : Loads Seen (Rule (.joinHubByInvite conn code)) (Seen hub) :=
        loads fun t entry seen => seen_grown seen (List.suffix_cons _ _)
      refine .seq (getMembershipRole_along loads seen) ?_
      rintro role t ⟨-, answered⟩
      cases role with
      | some role =>
        refine Prog.Always.bind enterHub_always (fun _ => ?_) t
        exact fun _ => trivial
      | none =>
        have not : NotOwner hub user t := by
          rcases answered with ⟨roles, shown, is⟩ | ⟨-, missed⟩
          · refine .inl ⟨roles, told_of_lastLook shown, fun owns => ?_⟩
            nomatch is.symm.trans owns
          · exact .inr missed
        have kept : Loads Seen (Rule (.joinHubByInvite conn code)) (NotOwner hub user) :=
          Ownership.loads fun t entry not => not.cons
        refine .seq (kept.plain (HubService.getHub_plain hub) not) fun existing t not => ?_
        cases existing with
        | none => trivial
        | some row =>
          refine bind_write ⟨nofun, not, nofun, nofun⟩ fun added => ?_
          match added with
          | .error e => exact fun _ => trivial
          | .ok () =>
            refine .bind enterHub_always fun _ => ?_
            exact .bind (.ask trivial) fun _ _ => trivial

theorem getHubInvite_always : (Handlers.getHubInvite conn hub).Always Sane (Rule request) := by
  refine .bind (.ask trivial) fun found => ?_
  cases found with
  | error e => exact fun _ => trivial
  | ok user =>
    intro t
    refine .seq (getMembershipRole_along loads_any trivial) ?_
    rintro role t ⟨-, answered⟩
    cases role with
    | none => trivial
    | some role =>
      dsimp only
      split
      · obtain ⟨roles, shown, -⟩ := answered.found
        refine ⟨⟨roles, told_of_lastLook shown⟩, fun answer _ => ?_⟩
        cases answer with
        | error e => trivial
        | ok token =>
          refine Prog.Always.bind ownConnections_always (fun _ => ?_) _
          exact fun _ => trivial
      · trivial

/-- The role update has on record who asks, that they own the hub, and that the target
does not. -/
theorem updateHubMemberRole_along {role : HubRole} :
    (Handlers.updateHubMemberRole conn hub target role).Along Sane
      (Rule (.updateHubMemberRole conn hub target role)) (fun _ _ => True) t := by
  refine .bind_ask trivial (fun found _ => ?_) fun _ _ => trivial
  cases found with
  | error e => trivial
  | ok actor =>
    let Asked : HubTranscript → Prop :=
      fun t => ∃ entry ∈ t, answersUser actor conn entry.1 entry.2 = true
    have asked : Asked (⟨.session (.sessionOfConnection conn), .ok (.ok actor)⟩ :: t) :=
      ⟨_, List.mem_cons_self, decide_eq_true ⟨rfl, rfl⟩⟩
    have asked_grows : ∀ t entry, Asked t → Asked (entry :: t) := by
      grind
    dsimp only
    split
    · trivial
    · cases parsed : Handlers.parseTargetRole role with
      | none => trivial
      | some desiredRole =>
        refine .seq (getMembershipRole_along (loads asked_grows) asked) ?_
        rintro actorRole t ⟨asked, actorAnswered⟩
        cases actorRole with
        | none => trivial
        | some actorRole =>
          obtain ⟨actorRoles, shown, actorIs⟩ := actorAnswered.found
          let Known : HubTranscript → Prop := fun t => Asked t ∧ Told hub actorRoles t
          have known_grows : ∀ t entry, Known t → Known (entry :: t) :=
            fun t entry known => ⟨asked_grows t entry known.1, known.2.grown (List.suffix_cons _ _)⟩
          refine .seq (getMembershipRole_along (loads known_grows)
            ⟨asked, told_of_lastLook shown⟩) ?_
          rintro targetRole t ⟨⟨asked, told⟩, answered⟩
          cases targetRole with
          | none => trivial
          | some targetRole =>
            dsimp only
            split
            · rename_i allowed
              unfold canChangeMemberRole at allowed
              obtain ⟨rfl, ordinary, modest⟩ : actorRole = .owner ∧ targetRole ≠ .owner ∧
                  desiredRole ≠ .owner := by
                grind
              refine bind_write ⟨modest, notOwner_of_found answered ordinary, ?_,
                fun _ _ _ _ => ?_⟩ fun written => ?_
              · rintro rfl
                obtain rfl : role = .admin := by
                  cases role <;> first | rfl | nomatch parsed
                exact ⟨conn, actor, actorRoles, rfl, asked, told, actorIs⟩
              · obtain ⟨roles, shown, is⟩ := answered.found
                exact ⟨roles, targetRole, shown, is⟩
              · match written with
                | .error (.exception _) | .error .unknown => exact fun _ => trivial
                | .ok () => exact .bind (.ask trivial) fun _ _ => trivial
            · trivial

theorem handlers_keep (request : Request) : discipline.Keeps request := by
  cases request with
  | joinHubByInvite conn code => exact joinHubByInvite_always []
  | leaveHub conn hub => exact leaveHub_always []
  | kickHubMember conn hub target => exact kickHubMember_always []
  | updateHubMemberRole conn hub target role => exact updateHubMemberRole_along
  | getHubInvite conn hub => exact getHubInvite_always []
  | _ => exact (Request.prog_composed _).always (part_always fun _ _ => ⟨fun _ => id, id, id⟩) []

end Handlers

/-- **Ownership and privilege.**  Any interleaving of any handlers, from any state with
sound tables and fair caches, in which the database draws no hub id twice: every hub has
one member with the owner role, its owner; and whatever the next move is, it makes
somebody an admin only as a role update whose connection belongs to that owner. -/
theorem one_owner (past : List HubId) (world : World) (sound : Sound past world)
    (moves : List (Move Request CallEnv))
    (new : Staged (Pool.step workers) (Pool.NextCall (New past)) (Pool.idle world) moves) :
    let pool := run (Pool.step workers) (Pool.idle world) moves
    (∀ hub row, pool.scene.shared.database.getHub hub = some row → ∀ user,
      pool.scene.shared.database.getMembershipRole hub user = some .owner ↔ user = row.owner) ∧
    ∀ move hub user,
      (pool.step workers move).scene.shared.database.getMembershipRole hub user = some .admin →
        pool.scene.shared.database.getMembershipRole hub user = some .admin ∨
          ∃ i env conn owner, move = .turn i env ∧
            .began i (.updateHubMemberRole conn hub user .admin) ∈ pool.scene.history ∧
            pool.scene.Called i (answersUser owner conn) ∧
            (pool.scene.shared.database.getHub hub).map Hub.owner = some owner := by
  intro pool
  have begins : Owned past { shared := world } :=
    { drawn := fun hub owner is => .inl (sound.drawn hub owner is)
      owners := sound.owners
      cached := fun hub snapshot is =>
        ⟨.inl (sound.cached hub snapshot is).1, (sound.cached hub snapshot is).2⟩
      invites := fun token hub is => .inl (sound.invites token hub is)
      seen := fun i hub seen => absurd seen (by simp [Seen, Scene.transcript])
      told := fun i hub roles told => absurd told (by simp [Told, Scene.transcript])
      missed := fun i hub missed => absurd missed (by simp [Missed, Scene.transcript]) }
  obtain ⟨owned, manned⟩ := (owned_preserved.rules fun _ request _ => handlers_keep request).run
    (new.mono fun _ _ calls => calls.next fun _ _ => trivial) begins
  constructor
  · intro hub row found user
    obtain ⟨owner, existing, rfl⟩ := Option.map_eq_some_iff.mp found
    exact ⟨owner_unique existing, fun same => same ▸ owned.owners hub owner existing⟩
  · intro move hub user is
    cases move with
    | start request => exact .inl is
    | turn i env =>
      simp only [Pool.step] at is
      split at is
      · exact .inl is
      · exact .inl is
      · rename_i c next found
        rcases admin_exec is with before | ⟨rfl, owner, existing⟩
        · exact .inl before
        · obtain ⟨request, began, along, -⟩ := manned.tasks i _ found
          obtain ⟨conn, actor, roles, rfl, asked, told, owns⟩ := along.1.2.2.1 rfl
          have fair := (owned.told i hub roles told).2 owner existing
          obtain rfl := fair.only actor owns
          refine .inr ⟨i, env, conn, actor, rfl, began, Scene.called_iff_transcript.mpr asked, ?_⟩
          rw [HubRepository.getHub, existing]
          rfl
      · exact .inl is

end Ownership

/-! ## A hub from its creation on -/

namespace Founded

open Lobby

theorem only_hub (is : world.database.tables.hubs.lookup k = some owner) : k = home ∧ owner = alice := by
  rw [show world.database.tables.hubs = (∅ : Map HubId UserId).insert home alice from rfl,
    Map.lookup_insert_if] at is
  split at is
  · rename_i same
    exact ⟨same, (Option.some.inj is).symm⟩
  · nomatch is

theorem sound : Ownership.Sound [home] world where
  drawn := fun _ _ is => List.mem_singleton.mpr (only_hub is).1
  owners := by
    intro k owner is
    obtain ⟨rfl, rfl⟩ := only_hub is
    decide
  cached := fun _ _ is => nomatch is
  invites := fun _ _ is => nomatch is

/-- Alice goes to make bob an admin; beside it, bob creates a hub, and tries to leave. -/
def moves : List (Move Request CallEnv) :=
  [.start (.updateHubMemberRole desk home bob .admin)] ++ turns 0 7 ++
    [.start (.createHub phone "lair")] ++ turns 1 20 { hubId := ⟨"lair"⟩ } ++
    [.start (.leaveHub phone ⟨"lair"⟩)] ++ turns 2 8

def after : WorkerPool := run (Pool.step workers) (Pool.idle world) moves

/-- Alice and bob own their hubs, and the turn that makes bob an admin is alice's. -/
theorem one_owner_founded :
    after.scene.shared.database.getMembershipRole home alice = some .owner ∧
      after.scene.shared.database.getMembershipRole ⟨"lair"⟩ bob = some .owner ∧
      ∃ conn, .began 0 (.updateHubMemberRole conn home bob .admin) ∈ after.scene.history ∧
        after.scene.Called 0 (Ownership.answersUser alice conn) := by
  obtain ⟨owners, admins⟩ := Ownership.one_owner [home] world sound moves (by decide)
  refine ⟨(owners home { id := home, owner := alice } (by decide) alice).mpr rfl,
    (owners ⟨"lair"⟩ { id := ⟨"lair"⟩, owner := bob, profile := { name := "lair" } } (by decide)
      bob).mpr rfl, ?_⟩
  rcases admins (.turn 0 {}) home bob (by decide) with before |
    ⟨i, env, conn, owner, is, began, asked, row⟩
  · exact absurd before (by decide)
  · cases is
    have same : owner = alice := by
      have row' : (after.scene.shared.database.getHub home).map Hub.owner = some alice := by
        decide
      exact Option.some.inj (row.symm.trans row')
    exact ⟨conn, began, same ▸ asked⟩

end Founded

end Kergit
