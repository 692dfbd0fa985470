import Kergit.Lib.ExpiringStore
import Kergit.Lib.Staged
import Kergit.Ids

/-!
Invite codes: a token names its hub, and the hub names its latest token.

Both keys live for an hour.  A code is given out again while it has three minutes left, and
after that a new one takes its place under the hub: the old one resolves to its end, but
nothing names it any more, and a revocation does not find it.

- `Named`: the hub names every token that resolves to it.
- `invites_revoked`: so it does as long as no code is made while an older one resolves.
-/

namespace Kergit

open Lib

/-- The keys in Redis, the time in milliseconds, and the tokens made so far. -/
structure Invites where
  now : Nat := 0
  tokens : Store String HubId := ∅
  hubs : Store HubId String := ∅
  issued : List (String × HubId) := []

/-- What happens next: a call, with the token it would draw and the time between its two writes;
or time passes. -/
inductive InviteInput where
  | create (hub : HubId) (token : String) (pause : Nat)
  | revoke (hub : HubId)
  | wait (time : Nat)

namespace Invites

variable (s : Invites)

def inviteTtl : Nat := 3600 * 1000

def resolveInvite (token : String) : Option HubId := s.tokens.live s.now token

-- `createInvite`, the token it gives out again; Redis rounds `TTL` to seconds.
def reused (hub : HubId) : Option String :=
  (s.hubs.live s.now hub).filter fun token =>
    (s.tokens.lifetime s.now token).any fun left => 180 ≤ (left + 500) / 1000

def createInvite (hub : HubId) (token : String) (pause : Nat) : Invites :=
  if s.reused hub = none then
    { now := s.now + pause
      tokens := s.tokens.put token hub (some (s.now + inviteTtl))
      hubs := s.hubs.put hub token (some (s.now + pause + inviteTtl))
      issued := (token, hub) :: s.issued }
  else s

def revokeInvitesForHub (hub : HubId) : Invites :=
  { s with
    tokens := (s.hubs.live s.now hub).elim s.tokens fun token => s.tokens.erase token
    hubs := s.hubs.erase hub }

def step : InviteInput → Invites
  | .create hub token pause => s.createInvite hub token pause
  | .revoke hub => s.revokeInvitesForHub hub
  | .wait time => { s with now := s.now + time }

/-- A token is new; and none is made while another resolves to the hub. -/
def Careful (s : Invites) : InviteInput → Prop
  | .create hub token _ => (∀ entry ∈ s.issued, entry.1 ≠ token) ∧
    (s.reused hub = none → ∀ old ∈ s.tokens.keys, s.resolveInvite old ≠ some hub)
  | _ => True

instance (s : Invites) (input : InviteInput) : Decidable (s.Careful input) := by
  cases input <;> unfold Careful <;> infer_instance

/-- From now on a hub names every token that resolves to it, and a token resolves to no hub but
the one it was issued for. -/
structure Named : Prop where
  names : ∀ time ≥ s.now, ∀ token hub, s.tokens.live time token = some hub →
    s.hubs.live time hub = some token
  owns : ∀ token owner, (token, owner) ∈ s.issued →
    ∀ time hub, s.tokens.live time token = some hub → hub = owner

/-- The token was issued, and never resolves again. -/
structure Dead (token : String) : Prop where
  issued : ∃ owner, (token, owner) ∈ s.issued
  silent : ∀ time ≥ s.now, s.tokens.live time token = none

variable {s} {token : String} {hub : HubId}

/-- A new token resolves for an hour, and the hub names it for longer. -/
theorem Named.create (named : s.Named) (token : String) (pause : Nat)
    (fresh : ∀ entry ∈ s.issued, entry.1 ≠ token)
    (none : ∀ old ∈ s.tokens.keys, s.resolveInvite old ≠ some hub) :
    Named
      { now := s.now + pause
        tokens := s.tokens.put token hub (some (s.now + inviteTtl))
        hubs := s.hubs.put hub token (some (s.now + pause + inviteTtl))
        issued := (token, hub) :: s.issued } where
  names time later other owner live := by
    have now : s.now ≤ time := Nat.le_of_add_right_le later
    rw [Store.live_put] at live ⊢
    split at live
    · rename_i is
      rw [ite_eq_iff] at live
      obtain ⟨alive, ⟨⟩⟩ | ⟨_, empty⟩ := live
      · have longer : Entry.alive ⟨token, some (s.now + pause + inviteTtl)⟩ time = true := by
          simp [Entry.alive] at alive ⊢
          omega
        rw [if_pos rfl, if_pos longer, is]
      · cases empty
    · have elsewhere : owner ≠ hub := by
        rintro rfl
        have resolves := Store.live_earlier live now
        obtain ⟨entry, found, -⟩ := Store.live_eq_some.mp resolves
        exact none other ((Map.mem_iff_lookup _ _).mpr ⟨entry, found⟩) resolves
      rw [if_neg elsewhere]
      exact named.names time now other owner live
  owns other owner issued time hub' live := by
    rw [Store.live_put] at live
    rcases List.mem_cons.mp issued with same | earlier
    · grind
    · rw [if_neg (fresh _ earlier)] at live
      exact named.owns other owner earlier time hub' live

theorem live_revoke (live : (s.revokeInvitesForHub hub).tokens.live time token = some owner) :
    s.tokens.live time token = some owner ∧ s.hubs.live s.now hub ≠ some token := by
  unfold revokeInvitesForHub at live
  cases found : s.hubs.live s.now hub with
  | none => exact ⟨by rwa [found] at live, nofun⟩
  | some latest =>
    rw [found] at live
    dsimp only [Option.elim_some] at live
    rw [Store.live_erase] at live
    grind

/-- After a revocation nothing resolves to the hub. -/
theorem Named.silent (named : s.Named) (later : s.now ≤ time) :
    (s.revokeInvitesForHub hub).tokens.live time token ≠ some hub := by
  intro live
  obtain ⟨live, unnamed⟩ := live_revoke live
  exact unnamed (Store.live_earlier (named.names time later token hub live) later)

theorem Named.revoked (named : s.Named) (issued : (token, hub) ∈ s.issued) :
    (s.revokeInvitesForHub hub).Dead token where
  issued := ⟨hub, issued⟩
  silent time later := by
    rw [Option.eq_none_iff_forall_ne_some]
    intro owner live
    obtain rfl := named.owns token hub issued time owner (live_revoke live).1
    exact named.silent later live

theorem Named.step (named : s.Named) (input : InviteInput) (careful : s.Careful input) :
    (s.step input).Named := by
  cases input with
  | create hub token pause =>
    unfold Invites.step createInvite
    dsimp only
    split
    · rename_i new
      exact named.create token pause careful.1 (careful.2 new)
    · exact named
  | revoke hub =>
    refine ⟨fun time later other owner live => ?_, fun other owner issued time hub live =>
      named.owns other owner issued time hub (live_revoke live).1⟩
    have elsewhere : owner ≠ hub := fun is => named.silent later (is ▸ live)
    have names := named.names time later other owner (live_revoke live).1
    exact (Store.live_erase.trans (if_neg elsewhere)).trans names
  | wait n => exact ⟨fun time later => named.names time (Nat.le_of_add_right_le later), named.owns⟩

theorem Dead.step (dead : s.Dead token) (input : InviteInput) (careful : s.Careful input) :
    (s.step input).Dead token := by
  obtain ⟨⟨owner, issued⟩, silent⟩ := dead
  cases input with
  | create other new pause =>
    unfold Invites.step createInvite
    dsimp only
    split
    · refine ⟨⟨owner, List.mem_cons_of_mem _ issued⟩, fun time later => ?_⟩
      rw [Store.live_put, if_neg (careful.1 _ issued)]
      exact silent time (Nat.le_of_add_right_le later)
    · exact ⟨⟨owner, issued⟩, silent⟩
  | revoke other =>
    refine ⟨⟨owner, issued⟩, fun time later => Option.eq_none_iff_forall_ne_some.mpr ?_⟩
    intro hub live
    nomatch (silent time later).symm.trans (live_revoke live).1
  | wait n =>
    exact ⟨⟨owner, issued⟩, fun time later => silent time (Nat.le_of_add_right_le later)⟩

/-- **A revocation is complete, and at most one token resolves to a hub**, if no code is made
while an older one resolves. -/
theorem invites_revoked {inputs : List InviteInput} (careful : Staged step Careful {} inputs) :
    (∀ a b hub, (run step {} inputs).resolveInvite a = some hub →
      (run step {} inputs).resolveInvite b = some hub → a = b) ∧
    ∀ before hub after, inputs = before ++ .revoke hub :: after →
      ∀ token, (token, hub) ∈ (run step {} before).issued →
        (run step {} inputs).resolveInvite token = none := by
  have named {inputs : List InviteInput} (careful : Staged step Careful {} inputs) :
      (run step {} inputs).Named := by
    refine careful.invariant Named (fun s input named careful => named.step input careful) ?_
    exact ⟨fun _ _ _ _ live => absurd live nofun, nofun⟩
  constructor
  · intro a b hub first second
    have one := (named careful).names _ le_rfl a hub first
    exact Option.some.inj (one.symm.trans ((named careful).names _ le_rfl b hub second))
  · rintro before hub after rfl token issued
    obtain ⟨first, -, later⟩ := staged_append.mp careful
    rw [run_append]
    refine (later.invariant (Dead · token) (fun s input dead => dead.step input) ?_).silent _ le_rfl
    exact (named first).revoked issued

end Invites

namespace Replaced

open Invites

def hub : HubId := ⟨"hub"⟩

/-- A code is replaced a minute before it ends, and the hub's invites are revoked. -/
def early : List InviteInput :=
  [.create hub "first" 0, .wait 3540000, .create hub "second" 0, .revoke hub]

/-- The first code goes on to admit people. -/
theorem replaced_code_resolves :
    (run step {} early).resolveInvite "second" = none ∧
      (run step {} early).resolveInvite "first" = some hub := by
  decide

/-- The same with a code that has ended. -/
def inTurn : List InviteInput :=
  [.create hub "first" 0, .wait 3600000, .create hub "second" 0, .revoke hub]

theorem inTurn_careful : Staged step Careful {} inTurn := by
  decide

theorem invites_revoked_in_turn :
    (run step {} inTurn).resolveInvite "second" = none :=
  (invites_revoked inTurn_careful).2 [.create hub "first" 0, .wait 3600000, .create hub "second" 0]
    hub [] rfl "second" (by decide)

end Replaced

end Kergit
