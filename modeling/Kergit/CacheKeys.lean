import Kergit.HubCalls
import Kergit.UserService

/-!
`AnyKey`, `OnMemoryCache` and the caches over it: what a cache keeps of an id is its type and
its hash, so two ids of one hash share an entry.
-/

namespace Kergit

open Lib

/-- The `type_index` of the ids that are used as keys. -/
inductive KeyType where
  | hubId
  | userId
deriving DecidableEq, Repr

structure AnyKey where
  type : KeyType
  hash : UInt64
deriving DecidableEq, Repr

/-- A cache of values that carry their id: `HubCache` and `UserCache`. -/
structure IdCache (K V : Type) where
  type : KeyType
  idOf : V → K
  /-- Some value with the id. -/
  sample : K → V
  idOf_sample : ∀ k, idOf (sample k) = k

namespace IdCache

variable {K V : Type} (c : IdCache K V) (hash : K → UInt64) (map : Map AnyKey V)

def make (id : K) : AnyKey := ⟨c.type, hash id⟩

def get (id : K) : Option V := map.lookup (c.make hash id)

/-- The calls that write. -/
inductive Op (K V : Type) where
  | put (value : V)
  | invalidate (id : K)

-- `put` and `invalidate` of both caches.
def play : Op K V → Map AnyKey V
  | .put value => map.insert (c.make hash (c.idOf value)) value
  | .invalidate id => map.erase (c.make hash id)

/-- The id a call writes under. -/
def Op.id : Op K V → K
  | .put value => c.idOf value
  | .invalidate id => id

-- `HubService::loadSnapshot`; `build` is what the database gives.
def load (build : K → Option V) (id : K) : Option V := (c.get hash map id).or (build id)

/-- Whatever is called, the calls about `a` leave the entry of `b` alone, and a load of `b` never
returns a value of `a`. -/
def KeepsApart (a b : K) : Prop :=
  ∀ ops, let map := run (c.play hash) ∅ ops
    (∀ op, Op.id c op = a → c.get hash (c.play hash map op) b = c.get hash map b) ∧
      ∀ build v, (∀ id v, build id = some v → c.idOf v = id) →
        c.load hash map build b = some v → c.idOf v ≠ a

variable {c hash map} {a b : K}

/-- Every value is filed under its own key. -/
def Filed (c : IdCache K V) (hash : K → UInt64) (map : Map AnyKey V) : Prop :=
  ∀ key v, map.lookup key = some v → key = c.make hash (c.idOf v)

theorem Filed.play (filed : c.Filed hash map) (op : Op K V) : c.Filed hash (c.play hash map op) := by
  intro key v found
  cases op with
  | put value =>
    rw [IdCache.play, Map.lookup_insert_if] at found
    split at found
    · rename_i same
      cases found
      exact same
    · exact filed key v found
  | invalidate id =>
    rw [IdCache.play, Map.lookup_erase_if] at found
    split at found
    · nomatch found
    · exact filed key v found

theorem not_apart (same : hash a = hash b) : ¬ c.KeepsApart hash a b := by
  intro apart
  have loads : c.load hash (run (c.play hash) ∅ [.put (c.sample a)]) (fun _ => none) b =
      some (c.sample a) := by
    rw [load, get, run_cons, run_nil, play, Map.lookup_insert_if, c.idOf_sample, make, make, same,
      if_pos rfl]
    rfl
  exact (apart _).2 _ _ (by simp) loads (c.idOf_sample a)

/-- **Two ids are kept apart exactly when their hashes differ.** -/
theorem keeps_apart_iff (differ : a ≠ b) : c.KeepsApart hash a b ↔ hash a ≠ hash b := by
  constructor
  · exact fun apart same => not_apart same apart
  · intro apart ops
    have filed : c.Filed hash (run (c.play hash) ∅ ops) :=
      run_invariant (fun _ op filed => filed.play op) nofun
    have elsewhere : c.make hash b ≠ c.make hash a := fun same => apart (AnyKey.mk.inj same).2.symm
    constructor
    · rintro (value | id) rfl
      · exact AList.lookup_insert_ne elsewhere
      · exact AList.lookup_erase_ne elsewhere
    · intro build v right loads
      rcases Option.or_eq_some_iff.mp loads with cached | ⟨-, built⟩
      · rintro rfl
        exact elsewhere (filed _ _ cached)
      · exact (right b v built).trans_ne differ.symm

end IdCache

def hubCache : IdCache HubId HubSnapshot where
  type := .hubId
  idOf := HubSnapshot.hubId
  sample hub := { hubId := hub, ownerId := {}, channelIds := [], memberRoles := ∅ }
  idOf_sample _ := rfl

def userCache : IdCache UserId (UserId × Profile) where
  type := .userId
  idOf := Prod.fst
  sample user := (user, ⟨"", "", ""⟩)
  idOf_sample _ := rfl

def resolveMembershipRole (hash : HubId → UInt64) (map : Map AnyKey HubSnapshot)
    (build : HubId → Option HubSnapshot) (hub : HubId) (user : UserId) : Option Role :=
  (hubCache.load hash map build hub).bind (·.memberRoles.lookup user)

theorem keeps_apart_by_length :
    hubCache.KeepsApart (fun hub => .ofNat hub.value.length) ⟨"a"⟩ ⟨"bb"⟩ ∧
      userCache.KeepsApart (fun user => .ofNat user.value.length) ⟨"a"⟩ ⟨"bb"⟩ :=
  ⟨(IdCache.keeps_apart_iff (by decide)).mpr (by decide),
    (IdCache.keeps_apart_iff (by decide)).mpr (by decide)⟩

/-- Two hubs of one hash: the owner of the one is taken for a member of the other, which the
database does not even have. -/
theorem other_hubs_snapshot_is_used :
    let snapshot : HubSnapshot :=
      { hubId := ⟨"a"⟩, ownerId := ⟨"alice"⟩, channelIds := []
        memberRoles := (∅ : Map UserId Role).insert ⟨"alice"⟩ .owner }
    let map := run (hubCache.play fun _ => 0) ∅ [.put snapshot]
    (¬ hubCache.KeepsApart (fun _ => 0) ⟨"a"⟩ ⟨"b"⟩ ∧
      ¬ userCache.KeepsApart (fun _ => 0) ⟨"a"⟩ ⟨"b"⟩) ∧
      resolveMembershipRole (fun _ => 0) map (fun _ => none) ⟨"b"⟩ ⟨"alice"⟩ = some .owner :=
  ⟨⟨IdCache.not_apart rfl, IdCache.not_apart rfl⟩, by decide⟩

end Kergit
