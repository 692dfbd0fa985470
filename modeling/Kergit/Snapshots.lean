import Kergit.Lib.Discipline
import Kergit.HubService

/-!
Where a snapshot comes from.

A snapshot that a task puts into the cache is either built from rows the task has read
or an edited copy of a snapshot it has got.  This is a fact about the task's own
transcript: `rows` is what it has read of a hub's rows, `lastLook` the member roles its
last look-up of the hub showed.

`Loads Rule K` says that a rule lets reads and the puts of built snapshots through; the
theorems below run every reading program of `HubService` under any such rule, once and
for all, and say what a look-up that answered has on record.
-/

namespace Kergit

open Lib

open HubProg (session subscription cache database)

open World (exec exec_database_ok)

/-- The calls a handler has made on the world. -/
abbrev HubTranscript := Transcript HubCall HubCall.Answer Thrown

namespace Snapshots

/-! ## Answers -/

/-- A cached snapshot is the hub's. -/
def Keyed : (c : CacheCall) → c.Answer → Prop
  | .get hub, some snapshot => snapshot.hubId = hub
  | _, _ => True

/-- The managers and the caches do not throw; rows and entries come with the id they
were asked by. -/
def Sane : (c : HubCall) → Except Thrown c.Answer → Prop
  | .session _, answer => ∃ a, answer = .ok a
  | .subscription _, answer => ∃ a, answer = .ok a
  | .cache c, answer => ∃ a, answer = .ok a ∧ Keyed c a
  | .database (.getHub hub), .ok (some row) => row.id = hub
  | _, _ => True

theorem exec_sane (env : CallEnv) (c : HubCall) (w : World) : Sane c (exec env c w).1 := by
  cases c with
  | cache c =>
    refine ⟨_, rfl, ?_⟩
    cases c with
    | get hub =>
      simp only [CacheCall.exec]
      cases found : w.caches.snapshots.lookup hub with
      | none => trivial
      | some snapshot => exact w.caches.keyed hub snapshot found
    | _ => trivial
  | database c =>
    cases c with
    | getHub hub =>
      simp only [exec]
      cases env.thrown with
      | some e => trivial
      | none =>
        simp only [DatabaseCall.exec, HubRepository.getHub]
        cases w.database.tables.hubs.lookup hub <;> trivial
    | _ => trivial
  | session c | subscription c => exact ⟨_, rfl⟩
  | outside c => trivial

/-! ## What is on record -/

/-- What a task has read of a hub's rows: its channels, and after them its members. -/
structure Rows where
  channels : List ChannelId
  roles : Option (Map UserId Role)

variable (hub : HubId)

def channelRows : (c : HubCall) → Except Thrown c.Answer → Option (List ChannelId)
  | .database (.getHubChannelIds k), .ok ids => if k = hub then some ids else none
  | .database (.getHubChannelsByHubIds hubs), .ok channels =>
    if hub ∈ hubs then
      some ((channels.filter fun channel => channel.hubId = hub).map fun channel => channel.id)
    else none
  | _, _ => none

def roleRows : (c : HubCall) → Except Thrown c.Answer → Option (Map UserId Role)
  | .database (.getHubMemberRoles k), .ok members =>
    if k = hub then some (Map.gather members) else none
  | .database (.getHubMemberRolesByHubIds hubs), .ok members =>
    if hub ∈ hubs then
      some (Map.gather ((members.filter fun row => row.1 = hub).map fun row => row.2))
    else none
  | _, _ => none

/-- The rows a call leaves on record. -/
def Rows.advance (known : Option Rows) (c : HubCall) (answer : Except Thrown c.Answer) :
    Option Rows :=
  match channelRows hub c answer with
  | some channels => some { channels, roles := none }
  | none =>
    match roleRows hub c answer with
    | some roles => known.map fun rows => { rows with roles := some roles }
    | none => known

def rows : HubTranscript → Option Rows
  | [] => none
  | ⟨c, answer⟩ :: earlier => Rows.advance hub (rows earlier) c answer

/-- The member roles a look-up of the hub shows: those of the cached snapshot, or those
of the rows a new one is built from. -/
def looks : (c : HubCall) → Except Thrown c.Answer → Option (Map UserId Role)
  | .cache (.get k), .ok (some snapshot) => if k = hub then some snapshot.memberRoles else none
  | .database (.getHubMemberRoles k), .ok members =>
    if k = hub then some (Map.gather members) else none
  | _, _ => none

def lastLook : HubTranscript → Option (Map UserId Role)
  | [] => none
  | ⟨c, answer⟩ :: earlier =>
    match looks hub c answer with
    | some roles => some roles
    | none => lastLook earlier

/-- The answer comes from a row or an entry of the hub: it exists, or it did. -/
def shows : (c : HubCall) → Except Thrown c.Answer → Bool
  | .cache (.get k), .ok (some _) => decide (k = hub)
  | .database (.getHub k), .ok (some _) => decide (k = hub)
  | .database (.getHubsByIds _), .ok found => found.any fun row => row.id = hub
  | .database (.getUserHubs _), .ok found => found.any fun row => row.id = hub
  | .outside (.resolveInvite _), .ok (some k) => decide (k = hub)
  | _, _ => false

def Seen (t : HubTranscript) : Prop := ∃ entry ∈ t, shows hub entry.1 entry.2 = true

/-- The hub was found not to exist, by a task that met `K`. -/
def Missed (K : HubTranscript → Prop) (t : HubTranscript) : Prop :=
  ∃ earlier, K earlier ∧ ⟨.database (.getHub hub), .ok none⟩ :: earlier <:+ t

/-- The snapshot is what the task has read of its hub. -/
def Built (snapshot : HubSnapshot) (t : HubTranscript) : Prop :=
  rows snapshot.hubId t =
    some { channels := snapshot.channelIds, roles := some snapshot.memberRoles }

variable {hub}

theorem lastLook_mem (shown : lastLook hub t = some roles) :
    ∃ entry ∈ t, looks hub entry.1 entry.2 = some roles := by
  induction t with
  | nil => nomatch shown
  | cons entry earlier ih =>
    obtain ⟨c, answer⟩ := entry
    simp only [lastLook] at shown
    cases here : looks hub c answer with
    | some found =>
      rw [here] at shown
      exact ⟨_, List.mem_cons_self, here.trans shown⟩
    | none =>
      grind

/-! ## What the answers say about the world -/

section Effects

variable {env : CallEnv} {c : HubCall} {w : World} {r : HubRepository}

/-- The cached snapshot changes by a put or by an invalidation. -/
theorem snapshot_exec (env : CallEnv) (c : HubCall) (w : World) :
    (exec env c w).2.caches.snapshots.lookup hub = w.caches.snapshots.lookup hub ∨
      (∃ snapshot, c = .cache (.put snapshot) ∧ snapshot.hubId = hub ∧
        (exec env c w).2.caches.snapshots.lookup hub = some snapshot) ∨
      c = .cache (.invalidate hub) ∧
        (exec env c w).2.caches.snapshots.lookup hub = none := by
  cases c with
  | cache c =>
    cases c with
    | put snapshot =>
      simp [exec, CacheCall.exec, HubCaches.put]
      grind
    | invalidate k =>
      simp [exec, CacheCall.exec, HubCaches.invalidate]
      grind
    | _ => exact .inl rfl
  | database d =>
    rcases World.exec_database_eq d with same | ⟨-, same⟩
    · rw [same]
      exact .inl rfl
    · rw [same]
      exact .inl rfl
  | outside c =>
    obtain ⟨invites, same⟩ := World.exec_outside_eq c
    rw [same]
    exact .inl rfl
  | session c | subscription c => exact .inl rfl

/-- The channel rows a task reads are the hub's. -/
theorem channelRows_exec (reads : channelRows hub c (exec env c w).1 = some channels) :
    ∀ id, id ∈ channels ↔ id ∈ w.database.getHubChannelIds hub := by
  generalize answered : (exec env c w).1 = answer at reads
  unfold channelRows at reads
  split at reads
  · obtain ⟨rfl, ⟨⟩⟩ := Option.ite_none_right_eq_some.mp reads
    cases exec_database_ok answered
    exact fun _ => Iff.rfl
  · obtain ⟨listed, ⟨⟩⟩ := Option.ite_none_right_eq_some.mp reads
    cases exec_database_ok answered
    simp [HubRepository.getHubChannelIds]
    grind [HubRepository.mem_getHubChannels]
  · cases reads

/-- The roles gathered from a hub's rows are the hub's. -/
theorem lookup_gather_roles
    (are : ∀ user role, (user, role) ∈ members ↔ (user, role) ∈ r.getHubMemberRoles hub) :
    ∀ user, (Map.gather members).lookup user = r.getMembershipRole hub user := by
  have rows : ∀ user role, (user, role) ∈ members ↔
      r.tables.members.lookup (hub, user) = some role := fun user role =>
    (are user role).trans (HubRepository.mem_getHubMemberRoles _ _ _)
  intro user
  refine Option.ext fun role => ?_
  grind [Map.lookup_gather]

theorem roleRows_exec (reads : roleRows hub c (exec env c w).1 = some roles) :
    ∀ user, roles.lookup user = w.database.getMembershipRole hub user := by
  generalize answered : (exec env c w).1 = answer at reads
  unfold roleRows at reads
  split at reads
  · obtain ⟨rfl, ⟨⟩⟩ := Option.ite_none_right_eq_some.mp reads
    cases exec_database_ok answered
    exact lookup_gather_roles fun _ _ => Iff.rfl
  · obtain ⟨listed, ⟨⟩⟩ := Option.ite_none_right_eq_some.mp reads
    cases exec_database_ok answered
    grind [lookup_gather_roles]
  · nomatch reads

/-- A look-up shows the cached snapshot or the rows. -/
theorem looks_exec (shown : looks hub c (exec env c w).1 = some roles) :
    (∃ snapshot, w.caches.snapshots.lookup hub = some snapshot ∧ roles = snapshot.memberRoles) ∨
      roleRows hub c (exec env c w).1 = some roles := by
  generalize answered : (exec env c w).1 = answer at shown ⊢
  unfold looks at shown
  split at shown
  · obtain ⟨rfl, ⟨⟩⟩ := Option.ite_none_right_eq_some.mp shown
    exact .inl ⟨_, Except.ok.inj answered, rfl⟩
  · exact .inr shown
  · nomatch shown

end Effects

/-! ## Rules that let a task load snapshots -/

/-- A rule that lets reads through, and puts of what was read; both keep `K`.  The members
asked for are those of hubs the task knows. -/
structure Loads (Known : HubId → HubTranscript → Prop) (Rule : HubTranscript → HubCall → Prop)
    (K : HubTranscript → Prop) : Prop where
  reads : ∀ t c, K t → c.Plain → Rule t c ∧ ∀ answer, Sane c answer → K (⟨c, answer⟩ :: t)
  roles : ∀ t d hubs, K t → d.membersAsked = some hubs → (∀ hub ∈ hubs, Known hub t) →
    Rule t (.database d) ∧ ∀ answer, K (⟨.database d, answer⟩ :: t)
  puts : ∀ t snapshot, K t → Built snapshot t →
    Rule t (.cache (.put snapshot)) ∧ ∀ answer, K (⟨.cache (.put snapshot), answer⟩ :: t)
  seen : ∀ hub t, Seen hub t → Known hub t
  grown : ∀ hub t t', Known hub t → t <:+ t' → Known hub t'

variable {Known : HubId → HubTranscript → Prop} {Rule : HubTranscript → HubCall → Prop}
  {K : HubTranscript → Prop} {t : HubTranscript}

/-- A call on a cache, and what follows. -/
theorem bind_cache {α : Type} {f : c.Answer → HubProg α}
    {R : Except Thrown α → HubTranscript → Prop} (rule : Rule t (.cache c))
    (rest : ∀ answer, Keyed c answer → (f answer).Along Sane Rule R (⟨.cache c, .ok answer⟩ :: t)) :
    (cache c >>= f).Along Sane Rule R t := by
  refine ⟨rule, ?_⟩
  rintro _ ⟨answer, rfl, keyed⟩
  exact rest answer keyed

namespace Loads

section

variable (loads : Loads Known Rule K)

include loads

theorem known_cons {hubs : List HubId} (known : ∀ hub ∈ hubs, Known hub t) :
    ∀ hub ∈ hubs, Known hub (entry :: t) := fun hub listed =>
  loads.grown hub t _ (known hub listed) (List.suffix_cons _ _)

/-- What the task knows stays known. -/
theorem and_known (hubs : List HubId) :
    Loads Known Rule fun t => K t ∧ ∀ hub ∈ hubs, Known hub t where
  reads := by
    rintro t c ⟨kept, known⟩ plain
    obtain ⟨rule, keeps⟩ := loads.reads t c kept plain
    exact ⟨rule, fun answer sane => ⟨keeps answer sane, loads.known_cons known⟩⟩
  roles := by
    rintro t d asked ⟨kept, known⟩ is askedKnown
    obtain ⟨rule, keeps⟩ := loads.roles t d asked kept is askedKnown
    exact ⟨rule, fun answer => ⟨keeps answer, loads.known_cons known⟩⟩
  puts := by
    rintro t snapshot ⟨kept, known⟩ built
    obtain ⟨rule, keeps⟩ := loads.puts t snapshot kept built
    exact ⟨rule, fun answer => ⟨keeps answer, loads.known_cons known⟩⟩
  seen := loads.seen
  grown := loads.grown

/-- One read. -/
theorem ask (kept : K t) {c : HubCall} (plain : c.Plain) :
    (Prog.ask c : HubProg c.Answer).Along Sane Rule
      (fun answer t' => K t' ∧ Sane c answer ∧ t' = ⟨c, answer⟩ :: t) t := by
  obtain ⟨rule, keeps⟩ := loads.reads t c kept plain
  exact .ask rule fun answer sane => ⟨keeps answer sane, sane, rfl⟩

/-- One read of members. -/
theorem askRoles (kept : K t) (asks : d.membersAsked = some hubs)
    (known : ∀ hub ∈ hubs, Known hub t) :
    (database d).Along Sane Rule (fun answer t' => K t' ∧ t' = ⟨.database d, answer⟩ :: t) t := by
  obtain ⟨rule, keeps⟩ := loads.roles t d hubs kept asks known
  exact .ask rule fun answer _ => ⟨keeps answer, rfl⟩

/-- Programs that only read. -/
theorem plain {α : Type} {p : HubProg α} (plain : p.Only HubCall.Plain) (kept : K t) :
    p.Along Sane Rule (fun _ => K) t :=
  .of_only plain (fun t c plain kept => loads.reads t c kept plain) kept

end

end Loads

/-- What a look-up of the hub has on record when it answers. -/
def Answered (K : HubTranscript → Prop) (hub : HubId) (t : HubTranscript) :
    Option HubSnapshot → Prop
  | some snapshot => lastLook hub t = some snapshot.memberRoles
  | none => Missed hub K t

theorem buildSnapshot_along (loads : Loads Known Rule K) (kept : K t) :
    (HubService.buildSnapshot hub).Along Sane Rule
      (Ending K fun found t' => Answered K hub t' found) t := by
  refine .bind (loads.ask kept ⟨trivial, rfl⟩) ?_ fun e t held => held.1
  rintro found _ ⟨kept', sane, rfl⟩
  cases found with
  | none => exact ⟨kept', t, kept, List.suffix_refl _⟩
  | some row =>
    obtain rfl : row.id = hub := sane
    refine .bind (loads.ask kept' ⟨trivial, rfl⟩) ?_ fun e t held => held.1
    rintro channels t' ⟨kept, -, same⟩
    have known : Known row.id t' := by
      subst same
      exact loads.seen _ _ ⟨_, List.mem_cons_of_mem _ List.mem_cons_self, decide_eq_true rfl⟩
    refine .bind (loads.askRoles kept rfl fun hub listed => ?_) ?_ fun e t held => held.1
    · rw [List.mem_singleton.mp listed]
      exact known
    rintro members t'' ⟨kept, same'⟩
    have built : Built
        { hubId := row.id
          ownerId := row.owner
          profile := row.profile
          channelIds := channels
          memberRoles := Map.gather members } t'' := by
      subst same same'
      simp [Built, rows, Rows.advance, channelRows, roleRows]
    have shown : lastLook row.id t'' = some (Map.gather members) := by
      subst same'
      simp [lastLook, looks]
    obtain ⟨rule, keeps⟩ := loads.puts t'' _ kept built
    exact .bind_ask rule (fun answer _ => ⟨keeps _, shown⟩) fun e _ => keeps _

theorem loadSnapshot_along (loads : Loads Known Rule K) (kept : K t) :
    (HubService.loadSnapshot hub).Along Sane Rule
      (Ending K fun found t' => Answered K hub t' found) t := by
  refine .bind (loads.ask kept trivial) ?_ fun e t held => held.1
  rintro found _ ⟨kept, -, rfl⟩
  cases found with
  | none => exact buildSnapshot_along loads kept
  | some snapshot => exact ⟨kept, by simp [Answered, lastLook, looks]⟩

/-- What the look-up of a role has on record. -/
def RoleAnswered (K : HubTranscript → Prop) (hub : HubId) (user : UserId) (t : HubTranscript)
    (role : Option Role) : Prop :=
  (∃ roles, lastLook hub t = some roles ∧ roles.lookup user = role) ∨
    role = none ∧ Missed hub K t

theorem getMembershipRole_along (loads : Loads Known Rule K) (kept : K t) :
    (HubService.getMembershipRole hub user).Along Sane Rule
      (Ending K fun role t' => RoleAnswered K hub user t' role) t := by
  refine .bind (loadSnapshot_along loads kept) ?_ fun e t kept => kept
  rintro found t' ⟨kept, answered⟩
  cases found with
  | none => exact ⟨kept, .inr ⟨rfl, answered⟩⟩
  | some snapshot => exact ⟨kept, .inl ⟨_, answered, rfl⟩⟩

/-- A role that was found is on record. -/
theorem RoleAnswered.found {user : UserId} {role : Role}
    (answered : RoleAnswered K hub user t (some role)) :
    ∃ roles, lastLook hub t = some roles ∧ roles.lookup user = some role :=
  answered.resolve_right fun missed => nomatch missed.1

theorem isHubMember_along (loads : Loads Known Rule K) (kept : K t) :
    (HubService.isHubMember hub user).Along Sane Rule (fun _ => K) t :=
  (getMembershipRole_along loads kept).finish fun _ _ => Ending.kept

theorem getHubTopology_along (loads : Loads Known Rule K) (kept : K t) :
    (HubService.getHubTopology hub).Along Sane Rule (fun _ => K) t := by
  refine .bind (loadSnapshot_along loads kept) (fun found t held => ?_) fun _ _ kept => kept
  cases found with
  | none | some snapshot => exact held.1

theorem getHubChannelIds_along (loads : Loads Known Rule K) (kept : K t) :
    (HubService.getHubChannelIds hub).Along Sane Rule (fun _ => K) t :=
  (getHubTopology_along loads kept).finish fun _ _ kept => kept

/-! ### Many hubs at once -/

section Batch

variable {hubs : List HubId} {channels : List Channel} {members : List (HubId × UserId × Role)}

/-- The rows of a hub among those of several. -/
def rowsOf (hub : HubId) (channels : List Channel)
    (members : Option (List (HubId × UserId × Role))) : Rows where
  channels := (channels.filter fun channel => channel.hubId = hub).map fun channel => channel.id
  roles := members.map fun members =>
    Map.gather ((members.filter fun row => row.1 = hub).map fun row => row.2)

section

variable (loads : Loads Known Rule K)

include loads

section

variable (kept : K t)

include kept

theorem channelsByHubIds_along :
    (HubService.channelsByHubIds hubs).Along Sane Rule (Ending K fun channels t' =>
      ∀ hub ∈ hubs, rows hub t' = some (rowsOf hub channels none)) t := by
  unfold HubService.channelsByHubIds
  split
  · rename_i none
    refine ⟨kept, fun hub listed => ?_⟩
    rw [List.isEmpty_iff.mp none] at listed
    nomatch listed
  · refine (loads.ask (c := .database (.getHubChannelsByHubIds hubs)) kept ⟨trivial, rfl⟩).mono ?_
    rintro r _ ⟨kept, -, rfl⟩
    cases r with
    | error e => exact kept
    | ok channels =>
      refine ⟨kept, fun hub listed => ?_⟩
      simp [rows, Rows.advance, channelRows, listed, rowsOf]

theorem memberRolesByHubIds_along (known : ∀ hub ∈ hubs, Known hub t)
    (read : ∀ hub ∈ hubs, rows hub t = some (rowsOf hub channels none)) :
    (HubService.memberRolesByHubIds hubs).Along Sane Rule (Ending K fun members t' =>
      ∀ hub ∈ hubs, rows hub t' = some (rowsOf hub channels (some members))) t := by
  unfold HubService.memberRolesByHubIds
  split
  · rename_i none
    refine ⟨kept, fun hub listed => ?_⟩
    rw [List.isEmpty_iff.mp none] at listed
    nomatch listed
  · refine (loads.askRoles kept rfl known).mono ?_
    rintro r _ ⟨kept, rfl⟩
    cases r with
    | error e => exact kept
    | ok members =>
      refine ⟨kept, fun hub listed => ?_⟩
      simp [rows, Rows.advance, channelRows, roleRows, listed, read hub listed, rowsOf]

/-- Storing what was read of several hubs. -/
theorem storeSnapshots_along {stored : List Hub}
    (read : ∀ hub ∈ stored, rows hub.id t = some (rowsOf hub.id channels (some members))) :
    (Prog.forEach (HubService.storeSnapshot channels members) stored).Along Sane Rule
      (fun _ => K) t := by
  let I : List Hub → HubTranscript → Prop := fun todo t => K t ∧
    ∀ hub ∈ todo, rows hub.id t = some (rowsOf hub.id channels (some members))
  refine (Prog.Along.forEach I (fun _ => K) ?_ ⟨kept, read⟩).mono ?_
  · rintro hub todo t ⟨kept, read⟩
    have channelsPut : (Prog.forEach (fun channel => cache (.putChannel channel))
        (channels.filter fun channel => channel.hubId = hub.id)).Along Sane Rule
        (fun _ => I (hub :: todo)) t := by
      have puts : (Prog.forEach (fun channel => cache (.putChannel channel))
          (channels.filter fun channel => channel.hubId = hub.id)).Only
          fun c => ∃ channel, c = .cache (.putChannel channel) :=
        .forEach fun channel _ => .ask ⟨channel, rfl⟩
      refine .of_only puts ?_ ⟨kept, read⟩
      rintro t _ ⟨channel, rfl⟩ ⟨kept, read⟩
      obtain ⟨rule, keeps⟩ := loads.reads t (.cache (.putChannel channel)) kept trivial
      exact ⟨rule, fun answer sane => ⟨keeps answer sane, read⟩⟩
    refine .bind channelsPut ?_ fun e t held => held.1
    rintro _ t ⟨kept, read⟩
    have built : Built (HubService.snapshotOf hub channels members) t :=
      read hub List.mem_cons_self
    obtain ⟨rule, keeps⟩ := loads.puts t _ kept built
    refine .ask rule fun answer _ => ?_
    cases answer with
    | ok _ =>
      exact ⟨keeps _, fun other later => read other (List.mem_cons_of_mem _ later)⟩
    | error e => exact keeps _
  · intro r t held
    cases r with
    | ok _ => exact held.1
    | error e => exact held

/-- Reading the rows of hubs the task knows. -/
theorem readRows_along {α : Type} {f : List Channel → List (HubId × UserId × Role) → HubProg α}
    {R : Except Thrown α → HubTranscript → Prop} (known : ∀ hub ∈ hubs, Known hub t)
    (after : ∀ channels members t, K t → (∀ hub ∈ hubs, Known hub t) →
      (∀ hub ∈ hubs, rows hub t = some (rowsOf hub channels (some members))) →
        (f channels members).Along Sane Rule R t)
    (thrown : ∀ e t, K t → R (.error e) t) :
    (do let channels ← HubService.channelsByHubIds hubs
        let members ← HubService.memberRolesByHubIds hubs
        f channels members).Along Sane Rule R t := by
  have loads' := loads.and_known hubs
  refine .bind (channelsByHubIds_along loads' ⟨kept, known⟩) ?_ fun e t held => thrown e t held.1
  rintro channels t ⟨⟨kept, known⟩, read⟩
  refine .bind (memberRolesByHubIds_along loads' ⟨kept, known⟩ known read) ?_
    fun e t held => thrown e t held.1
  rintro members t ⟨⟨kept, known⟩, read⟩
  exact after channels members t kept known read

/-- A hub with a cached snapshot is known. -/
theorem lookupSnapshots_along :
    (HubService.lookupSnapshots hubs).Along Sane Rule (Ending K fun found t' =>
      ∀ entry ∈ found, ∀ snapshot, entry.2 = some snapshot → Known snapshot.hubId t') t := by
  let I : List (HubId × Option HubSnapshot) → HubTranscript → Prop := fun found t => K t ∧
    ∀ entry ∈ found, ∀ snapshot, entry.2 = some snapshot → Known snapshot.hubId t
  refine (Prog.Along.collect I (fun _ => K) ?_ ⟨kept, nofun⟩).mono ?_
  · rintro hub found t ⟨kept, known⟩
    refine .bind (loads.ask kept trivial) ?_ fun _ _ held => held.1
    rintro looked _ ⟨kept, ⟨_, is, keyed⟩, rfl⟩
    cases is
    refine ⟨kept, fun entry listed snapshot is => ?_⟩
    rcases List.mem_append.mp listed with earlier | last
    · exact loads.grown _ t _ (known entry earlier snapshot is) (List.suffix_cons _ _)
    · rw [List.mem_singleton.mp last] at is
      obtain rfl : looked = some snapshot := is
      refine loads.seen _ _ ⟨_, List.mem_cons_self, decide_eq_true ?_⟩
      exact Eq.symm keyed
  · intro r t held
    cases r with
    | ok found | error e => exact held

/-- The hubs that are found are known. -/
theorem getHubsByIds_along :
    (HubService.getHubsByIds hubs).Along Sane Rule
      (Ending K fun found t' => ∀ hub ∈ found, Known hub.id t') t := by
  refine .bind (lookupSnapshots_along loads kept) ?_ fun e t kept => kept
  rintro found t ⟨kept, cached⟩
  have cachedKnown : ∀ hub ∈ found.filterMap fun entry => entry.2.map HubService.toHub,
      Known hub.id t := by
    intro hub listed
    obtain ⟨entry, among, is⟩ := List.mem_filterMap.mp listed
    obtain ⟨snapshot, found, rfl⟩ := Option.map_eq_some_iff.mp is
    exact cached entry among snapshot found
  split
  · exact ⟨kept, cachedKnown⟩
  · have loads' := loads.and_known ((found.filterMap fun entry =>
      entry.2.map HubService.toHub).map fun hub => hub.id)
    refine .bind (loads'.ask ⟨kept, List.forall_mem_map.mpr cachedKnown⟩ ⟨trivial, rfl⟩) ?_
      fun _ _ held => held.1.1
    rintro fetched t ⟨kept, -, same⟩
    refine readRows_along loads' kept (fun hub listed => loads.seen hub t ?_) ?_
      fun e t held => held.1
    · subst same
      obtain ⟨row, among, rfl⟩ := List.mem_map.mp listed
      exact ⟨_, List.mem_cons_self, List.any_eq_true.mpr ⟨row, among, decide_eq_true rfl⟩⟩
    · intro channels members t kept fetchedKnown read
      refine .bind (storeSnapshots_along (loads'.and_known (fetched.map fun hub => hub.id))
        ⟨kept, fetchedKnown⟩ fun hub listed => read hub.id (List.mem_map_of_mem listed)) ?_
        fun _ _ held => held.1.1
      rintro _ t ⟨⟨kept, cachedKnown⟩, fetchedKnown⟩
      refine ⟨kept, fun hub listed => ?_⟩
      grind

theorem warmSnapshotsForHubs_along {hubs : List Hub} (known : ∀ hub ∈ hubs, Known hub.id t) :
    (HubService.warmSnapshotsForHubs hubs).Along Sane Rule (fun _ => K) t := by
  have some : ∀ hub ∈ ((hubs.filter fun hub => hub.id.value ≠ "").pwFilter
      fun a b => a.id ≠ b.id).map fun hub => hub.id, Known hub t := by
    intro id listed
    obtain ⟨hub, among, rfl⟩ := List.mem_map.mp listed
    exact known hub (List.mem_of_mem_filter (List.pwFilter_subset _ among))
  have loads' := loads.and_known (((hubs.filter fun hub => hub.id.value ≠ "").pwFilter
    fun a b => a.id ≠ b.id).map fun hub => hub.id)
  refine .bind (loads'.plain (HubService.lookupSnapshots_plain _) ⟨kept, some⟩)
    (fun found t held => ?_) fun _ _ held => held.1
  split
  · exact held.1
  · refine readRows_along loads held.1 held.2 ?_ fun _ _ kept => kept
    intro channels members t kept _ read
    exact storeSnapshots_along loads kept fun hub listed => read hub.id (List.mem_map_of_mem listed)

end

end

end Batch

end Snapshots

end Kergit
