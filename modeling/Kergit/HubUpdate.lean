import Kergit.Server

/-!
HUB_UPDATE with a name and an avatar seed: two writes, each in a transaction of its own.  An error
of the second is answered, and the first stays.
-/

namespace Kergit

open Lib

namespace Handlers

/-- How a write to a hub's row ends: it says whether there is one, finds none any more, or throws,
before or after its commit. -/
inductive RowWrite where
  | returned
  | missing
  | threw (e : Thrown) (committed : Bool)
deriving DecidableEq, Repr

def RowWrite.play (write : RowWrite) (w : World) (row : Bool × HubRepository) :
    Except Thrown Bool × World :=
  match write with
  | .returned => (.ok row.1, { w with database := row.2 })
  | .missing => (.ok false, w)
  | .threw e committed => (.error e, if committed then { w with database := row.2 } else w)

/-- How the two writes end, and what the other calls find. -/
structure HubWrites where
  rename : RowWrite := .returned
  avatar : RowWrite := .returned
  env : CallEnv := {}

def HubWrites.exec (writes : HubWrites) : (c : HubCall) → World → Except Thrown c.Answer × World
  | .database (.renameHub hub name), w => writes.rename.play w (w.database.renameHub hub name)
  | .database (.updateHubAvatarSeed hub seed), w =>
    writes.avatar.play w (w.database.updateHubAvatarSeed hub seed)
  | c, w => World.exec writes.env c w

variable {writes : HubWrites} {w v : World} {conn : GlobalConnId} {hub : HubId}
  {name seed name' seed' : String} {refusal : VoiceState.Refusal}

/-- The command, with nothing else going on but what ends its writes. -/
abbrev updates (writes : HubWrites) (w : World) (conn : GlobalConnId) (hub : HubId)
    (name seed : String) : Except Thrown Reply × World :=
  Prog.alone HubWrites.exec writes (updateHub conn hub (some name) (some seed)) w

def stored (r : HubRepository) (hub : HubId) : HubProfile := (r.tables.profiles.lookup hub).getD {}

/-- The checks pass, and these texts are to be written. -/
def MayUpdate (writes : HubWrites) (w : World) (conn : GlobalConnId) (hub : HubId)
    (name seed name' seed' : String) : Prop :=
  checkProfile (some name) (some seed) = .ok (some name', some seed') ∧
    ∃ user role, w.userOf conn = some user ∧ role ≠ Role.user ∧
      (Prog.alone HubWrites.exec writes (HubService.getMembershipRole hub user) w).1 =
        .ok (some role)

/-- There is a row, and the write changes it. -/
def Commits (write : RowWrite) (r : HubRepository) (hub : HubId) : Prop :=
  hub ∈ r.tables.hubs ∧ (write = .returned ∨ ∃ e, write = .threw e true)

/-- Whatever is written is what was stored. -/
def Harmless (writes : HubWrites) (r : HubRepository) (hub : HubId) (name seed : String) : Prop :=
  (Commits writes.rename r hub → textParam name = (stored r hub).name) ∧
    (writes.rename = .returned → Commits writes.avatar r hub →
      textParam seed = (stored r hub).avatarSeed)

theorem reads_keep_database {α : Type} {p : HubProg α} (reads : p.Only HubCall.Reads) :
    (Prog.alone HubWrites.exec writes p w).2.database = w.database := by
  refine reads.alone_keeps (fun v : World => v.database = w.database) (fun c v reads same => ?_) rfl
  cases c with
  | cache c => exact same
  | database d =>
    have kept : (World.exec writes.env (.database d) v).2.database = v.database := by
      rcases World.exec_database_eq d with is | ⟨-, is⟩
      · rw [is]
      · rw [is]
        cases d <;> first | rfl | exact reads.elim
    cases d <;> first | exact kept.trans same | exact reads.elim
  | session c | subscription c | outside c => exact reads.elim

open Classical in
/-- A write that commits changes the row, whatever is answered. -/
theorem play_updateProfile (write : RowWrite) (change : HubProfile → HubProfile) :
    let out := write.play w (w.database.updateProfile hub change)
    stored out.2.database hub = (if Commits write w.database hub then
      change (stored w.database hub) else stored w.database hub) ∧
      out.2.database.tables.hubs = w.database.tables.hubs ∧
      (out.1 = .ok true ↔ write = .returned ∧ hub ∈ w.database.tables.hubs) := by
  by_cases row : hub ∈ w.database.tables.hubs <;> rcases write with _ | _ | ⟨e, _ | _⟩ <;>
    simp [RowWrite.play, HubRepository.updateProfile, row, Commits, stored]

/-- The writes are made one after the other, until one fails. -/
theorem writeProfile_alone : ∃ answer v, Prog.alone HubWrites.exec writes
    (writeProfile hub (some name) (some seed)).attempt w = (.ok answer, v) ∧ (answer ≠ .ok none →
      (stored v.database hub = stored w.database hub ↔
        Harmless writes w.database hub name seed)) := by
  have renamed := @play_updateProfile w hub writes.rename fun profile =>
    { profile with name := textParam name }
  simp only [Harmless]
  generalize stored w.database hub = old at renamed
  cases old
  change ∃ answer v, Prog.alone HubWrites.exec writes (.call (.database (.renameHub hub name)) _) w =
    _ ∧ _
  rw [Prog.alone, show HubWrites.exec writes (.database (.renameHub hub name)) w =
    writes.rename.play w (w.database.updateProfile hub fun profile =>
      { profile with name := textParam name }) from rfl]
  generalize writes.rename.play w _ = first at renamed
  obtain ⟨named, hubs, whole⟩ := renamed
  rcases first with ⟨e | _ | _, v⟩
  · refine ⟨.error e, v, rfl, fun _ => ?_⟩
    grind [Commits]
  · refine ⟨_, v, rfl, fun _ => ?_⟩
    grind [Commits]
  · obtain ⟨returned, row⟩ := whole.mp rfl
    -- The snapshot is dropped, and the row is the one that was renamed.
    let u : World := (HubWrites.exec writes (.cache (.invalidate hub)) v).2
    have updated := @play_updateProfile u hub writes.avatar fun profile =>
      { profile with avatarSeed := textParam seed }
    change ∃ answer v', Prog.alone HubWrites.exec writes (.call (.cache (.invalidate hub)) _) v =
      _ ∧ _
    rw [Prog.alone]
    change ∃ answer v', Prog.alone HubWrites.exec writes
      (.call (.database (.updateHubAvatarSeed hub seed)) _) u = _ ∧ _
    rw [Prog.alone, show HubWrites.exec writes (.database (.updateHubAvatarSeed hub seed)) u =
      writes.avatar.play u (u.database.updateProfile hub fun profile =>
        { profile with avatarSeed := textParam seed }) from rfl]
    generalize writes.avatar.play u _ = second at updated
    have same : u.database = v.database := rfl
    obtain ⟨seeded, -, -⟩ := updated
    rcases second with ⟨e | _ | _, v'⟩
    · refine ⟨.error e, v', rfl, fun _ => ?_⟩
      grind [Commits]
    · refine ⟨_, v', rfl, fun _ => ?_⟩
      grind [Commits]
    · exact ⟨.ok none, _, rfl, by simp⟩

/-- Past the checks an error comes of the writes. -/
theorem changeProfile_rejected (rejected : (Prog.alone HubWrites.exec writes
      (changeProfile hub (some name) (some seed)) w).1 = .ok (.refused refusal)) :
    stored (Prog.alone HubWrites.exec writes (changeProfile hub (some name) (some seed))
      w).2.database hub = stored w.database hub ↔ Harmless writes w.database hub name seed := by
  obtain ⟨answer, v, wrote, right⟩ := @writeProfile_alone writes w hub name seed
  rw [changeProfile, Prog.alone_bind wrote] at rejected ⊢
  rcases answer with (what | _) | _ | failure
  · dsimp only at rejected ⊢
    cases mapHubWriteError what <;> exact right nofun
  · exact right nofun
  · obtain ⟨found, u, read⟩ := Prog.alone_bind_ok rejected
    rw [Prog.alone_bind read] at rejected
    cases found <;> nomatch rejected
  · exact right nofun

theorem checkProfile_some (checked : checkProfile (some name) (some seed) = .ok texts) :
    ∃ name' seed', texts = (some name', some seed') := by
  obtain ⟨named, seeded⟩ := checkProfile_ok checked
  obtain ⟨name', -, is⟩ := checkAsked_some named
  obtain ⟨seed', -, is'⟩ := checkAsked_some seeded
  exact ⟨name', seed', Prod.ext is is'⟩

/-- **A rejected update has no effect exactly when nothing is written, or what is written was stored
already.** -/
theorem rejected_update_harmless_iff
    (rejected : (updates writes w conn hub name seed).1 = .ok (.refused refusal)) :
    stored (updates writes w conn hub name seed).2.database hub = stored w.database hub ↔
      ∀ name' seed', MayUpdate writes w conn hub name seed name' seed' →
        Harmless writes w.database hub name' seed' := by
  unfold updates updateHub at rejected ⊢
  have asked : Prog.alone HubWrites.exec writes (HubProg.session (.sessionOfConnection conn)) w =
      (.ok (w.sessions.sessionOfConnection conn), w) := rfl
  rw [Prog.alone_bind asked] at rejected ⊢
  cases found : w.sessions.sessionOfConnection conn with
  | error e =>
    refine iff_of_true rfl ?_
    rintro name' seed' ⟨-, user, _, known, -⟩
    nomatch found.symm.trans (SessionManager.sessionOfConnection_ok.mpr known)
  | ok user =>
    have known : w.userOf conn = some user := SessionManager.sessionOfConnection_ok.mp found
    rw [found] at rejected
    cases checked : checkProfile (some name) (some seed) with
    | error refusal =>
      refine iff_of_true rfl ?_
      rintro name' seed' ⟨passed, -⟩
      nomatch checked.symm.trans passed
    | ok texts =>
      obtain ⟨name', seed', rfl⟩ := checkProfile_some checked
      simp only [checked] at rejected ⊢
      obtain ⟨role, v, resolved⟩ := Prog.alone_bind_ok rejected
      rw [Prog.alone_bind resolved] at rejected ⊢
      have kept := @reads_keep_database writes w _ _ (HubService.getMembershipRole_reads hub user)
      rw [resolved] at kept
      have refused (unfit : ∀ r, role = some r → r = .user) :
          ∀ a b, MayUpdate writes w conn hub name seed a b → Harmless writes w.database hub a b := by
        rintro a b ⟨-, user', role', known', above, resolved'⟩
        cases known.symm.trans known'
        rw [resolved] at resolved'
        exact absurd (unfit role' (Except.ok.inj resolved')) above
      have allowed {r : Role} (is : role = some r) (above : r ≠ .user) :
          Harmless writes w.database hub name' seed' ↔
            ∀ a b, MayUpdate writes w conn hub name seed a b → Harmless writes w.database hub a b := by
        refine ⟨fun harmless a b ⟨passed, _⟩ => ?_, fun all => all name' seed' ?_⟩
        · cases checked.symm.trans passed
          exact harmless
        · exact ⟨checked, user, r, known, above, by rw [resolved, is]⟩
      rcases role with _ | _ | _ | _
      · exact iff_of_true (congrArg (stored · hub) kept) (refused nofun)
      · exact iff_of_true (congrArg (stored · hub) kept) (refused (by simp))
      all_goals
        rw [← allowed rfl nofun, ← kept]
        exact changeProfile_rejected rejected

end Handlers

namespace Lobby

open Handlers

/-- The seed's write finds no connection: the hub has its new name, and the reply is an error. -/
theorem failed_update_renames :
    let out := updates { avatar := .threw .unknown false } world desk home "den" "fox"
    out.1 = .ok (.refused (.error .internalError "Unable to update hub settings")) ∧
      (stored world.database home).name = "" ∧ (stored out.2.database home).name = "den" := by
  decide +kernel

theorem rejected_update_harmless_rename :
    let out := updates { rename := .threw .unknown false } world desk home "den" "fox"
    stored out.2.database home = stored world.database home := by
  have rejected : (updates { rename := .threw .unknown false } world desk home "den" "fox").1 =
      .ok (.refused (.error .internalError "Unable to update hub settings")) := by
    decide +kernel
  refine (rejected_update_harmless_iff rejected).mpr fun name' seed' _ => ?_
  simp [Harmless, Commits]

end Lobby

end Kergit
