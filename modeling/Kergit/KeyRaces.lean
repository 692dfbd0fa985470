import Kergit.Lib.Programs
import Kergit.ChannelKeyLedger

/-!
`ChannelKeyService` under concurrent calls on one channel.

`ChannelKeyService.lean` has the functions as a single thread runs them.  Here
`acquire_for_join`, `rotate_and_broadcast` and `clear_channel` are programs, interleaved call
by call.  What runs under the channel's rotation mutex is one call; what does not is a call
for each lock of another class or command to Redis: `acquire_for_join` reads the key and, if
nobody else is in the channel, writes what it has read back to Redis, with no lock around the
three.  `acquireForJoin_alone` says that a program run by itself is the function.

`Stored` says that Redis holds what the key manager holds.  The calls under the mutex keep
it.  The two writes without it keep it where the key they carry is still the channel's.
-/

namespace Kergit

open Lib

namespace KeyRaces

/-- The calls; those of the second group are critical sections. -/
inductive KeyCall where
  | userChannel (user : UserId)
  | isEmpty
  | recordJoin (user : UserId)
  | getKey
  | isChannelEffectivelyEmpty
  | encryptKeyBlob (key : String)
  | setexKey (blob : String)
  | setexIndex (keyIndex : Nat)
  | clearDebounce
  | rotateAndBroadcast
  | acquireLocked (empty : Option Bool)
  | clearLocked
deriving DecidableEq, Repr

@[reducible] def KeyCall.Answer : KeyCall → Type
  | .userChannel _ => Option ChannelId
  | .isEmpty => Bool
  | .recordJoin _ => Bool
  | .getKey => Option ChannelKey
  | .isChannelEffectivelyEmpty => Option Bool
  | .encryptKeyBlob _ => Option String
  | .rotateAndBroadcast => ChannelKey
  | .acquireLocked _ => Option ChannelKey
  | .setexKey _ | .setexIndex _ | .clearDebounce | .clearLocked => Unit

abbrev KeyProg := Prog KeyCall KeyCall.Answer Unit

/-! ## Programs -/

def call (c : KeyCall) : KeyProg c.Answer := Prog.ask c

def persistUnlocked (key : ChannelKey) : KeyProg Unit := do
  let encrypted : Option String ← call (.encryptKeyBlob key.key)
  match encrypted with
  | none => pure ()
  | some blob =>
    call (.setexKey blob)
    call (.setexIndex key.keyIndex)

def acquireShared (user : UserId) : KeyProg (Option ChannelKey) := do
  let debounced : Bool ← call (.recordJoin user)
  let current : Option ChannelKey ← if debounced then call .getKey else pure none
  match current with
  | some key => pure (some key)
  | none =>
    let rotated ← call .rotateAndBroadcast
    pure (some rotated)

-- `acquire_for_join`, no other member present.
def acquireAlone : KeyProg (Option ChannelKey) := do
  let current : Option ChannelKey ← call .getKey
  match current with
  | some key =>
    persistUnlocked key
    pure (some key)
  | none =>
    let empty ← call .isChannelEffectivelyEmpty
    call (.acquireLocked empty)

def nobodyElse (channel : ChannelId) (user : UserId) : KeyProg Bool := do
  let current : Option ChannelId ← call (.userChannel user)
  if current = some channel then pure true else call .isEmpty

-- `acquire_for_join`; the key it ends with, if it is one.
def acquireForJoin (channel : ChannelId) (user : UserId) : KeyProg (Option ChannelKey) := do
  let alone ← nobodyElse channel user
  let acquired ← bif alone then acquireAlone else acquireShared user
  pure (acquired.filter (·.key ≠ ""))

inductive KeyCommand where
  | acquireForJoin (user : UserId)
  | rotateAndBroadcast
  | clearChannel
deriving DecidableEq, Repr

-- `acquire_for_join`, `rotate_and_broadcast`, `clear_channel`; the result is the
-- key that came out.
def prog (channel : ChannelId) : KeyCommand → KeyProg (Option ChannelKey)
  | .acquireForJoin user => acquireForJoin channel user
  | .rotateAndBroadcast => do
    let rotated ← call .rotateAndBroadcast
    pure (some rotated)
  | .clearChannel => do
    call .clearLocked
    call .clearDebounce
    pure none

/-! ## Calls -/

section Calls

variable (cfg : Config) (channel : ChannelId) (env : Env) (s : VoiceState)

-- `acquire_for_join`, under the mutex: the key is looked up again.
def acquireLocked (empty : Option Bool) : Option ChannelKey × VoiceState :=
  match s.keys.getKey channel with
  | some key => (some key, s.onKeys (·.persistToStorage cfg env channel key))
  | none =>
    if empty = some true then s.acquireFresh cfg env channel
    else s.acquireRecovered cfg env channel

def clearLocked (k : KeyTables) : KeyTables :=
  { k with
    channels := k.channels.erase channel
    storedBlobs := env.redis.del KeyTables.keyStorageKey k.storedBlobs channel
    storedIndices := env.redis.del KeyTables.indexStorageKey k.storedIndices channel }

def exec : (c : KeyCall) → Except Unit c.Answer × VoiceState
  | .userChannel user => (.ok (s.sessions.userChannel user), s)
  | .isEmpty => (.ok (s.sessions.isEmpty channel), s)
  | .recordJoin user =>
    (.ok (s.keys.shouldDebounce cfg env channel user), s.onKeys (·.recordJoin env channel user))
  | .getKey => (.ok (s.keys.getKey channel), s)
  | .isChannelEffectivelyEmpty => (.ok (s.isChannelEffectivelyEmpty env channel), s)
  | .encryptKeyBlob key =>
    (.ok (if !cfg.storageKeyReady ∨ key = "" then none else env.encryptKeyBlob key), s)
  | .setexKey blob =>
    (.ok (), s.onKeys fun k => { k with
      storedBlobs :=
        env.redis.setex KeyTables.keyStorageKey k.storedBlobs channel cfg.keyTtl blob })
  | .setexIndex keyIndex =>
    (.ok (), s.onKeys fun k => { k with
      storedIndices :=
        env.redis.setex KeyTables.indexStorageKey k.storedIndices channel cfg.keyTtl keyIndex })
  | .clearDebounce =>
    (.ok (), s.onKeys fun k => { k with joinRotateSeen := k.joinRotateSeen.erase channel })
  | .rotateAndBroadcast =>
    (.ok (s.rotateAndBroadcast cfg env channel).1, (s.rotateAndBroadcast cfg env channel).2)
  | .acquireLocked empty =>
    (.ok (acquireLocked cfg channel env s empty).1, (acquireLocked cfg channel env s empty).2)
  | .clearLocked => (.ok (), s.onKeys (clearLocked channel env))

def machine : Machine KeyCall KeyCall.Answer Unit KeyCommand (Option ChannelKey) VoiceState Env where
  exec := fun env c s => exec cfg channel env s c
  prog := prog channel

end Calls

/-! ## A program by itself -/

section Invariant

variable {cfg : Config} {channel : ChannelId} {env : Env} {s : VoiceState}

theorem persistUnlocked_alone (key : ChannelKey) :
    (persistUnlocked key).alone (machine cfg channel).exec env s =
      (.ok (), s.onKeys (·.persistToStorage cfg env channel key)) := by
  rw [persistUnlocked, Prog.alone_bind rfl]
  unfold KeyTables.persistToStorage
  by_cases skipped : !cfg.storageKeyReady ∨ key.key = ""
  · simp only [if_pos skipped]
    rfl
  · simp only [if_neg skipped]
    cases env.encryptKeyBlob key.key with
    | none | some blob => rfl

theorem acquireShared_alone (user : UserId) :
    (acquireShared user).alone (machine cfg channel).exec env s =
      (.ok (s.acquireShared cfg env channel user).1, (s.acquireShared cfg env channel user).2) := by
  refine (Prog.alone_bind rfl).trans ?_
  unfold VoiceState.acquireShared
  cases s.keys.shouldDebounce cfg env channel user with
  | false => rfl
  | true =>
    have asked : (call .getKey).alone (machine cfg channel).exec env
        (s.onKeys (·.recordJoin env channel user)) =
          (.ok (s.keys.getKey channel), s.onKeys (·.recordJoin env channel user)) := rfl
    refine (Prog.alone_bind asked).trans ?_
    simp only [if_true]
    cases s.keys.getKey channel with
    | none | some key => rfl

theorem acquireAlone_alone :
    acquireAlone.alone (machine cfg channel).exec env s =
      (.ok (s.acquireAlone cfg env channel).1, (s.acquireAlone cfg env channel).2) := by
  rw [acquireAlone, Prog.alone_bind rfl]
  unfold VoiceState.acquireAlone
  cases found : s.keys.getKey channel with
  | some key =>
    rw [Prog.alone_bind (persistUnlocked_alone key)]
    rfl
  | none =>
    have locked : acquireLocked cfg channel env s (s.isChannelEffectivelyEmpty env channel) =
        if s.isChannelEffectivelyEmpty env channel = some true then s.acquireFresh cfg env channel
        else s.acquireRecovered cfg env channel := by
      rw [acquireLocked, found]
    rw [← locked]
    rfl

/-- `acquire_for_join` ends with what it acquired, unless that is empty. -/
theorem acquireForJoin_eq (user : UserId) (out : Option ChannelKey × VoiceState)
    (acquired : (if s.otherMembersPresent channel user then s.acquireShared cfg env channel user
      else s.acquireAlone cfg env channel) = out) :
    (s.acquireForJoin cfg env channel user).1.toOption = out.1.filter (·.key ≠ "") ∧
      (s.acquireForJoin cfg env channel user).2 = out.2 := by
  unfold VoiceState.acquireForJoin
  rw [acquired]
  dsimp only
  split
  all_goals
    rename_i made
    rw [made]
    exact ⟨rfl, rfl⟩

theorem nobodyElse_alone (cfg : Config) (env : Env) (s : VoiceState) (channel : ChannelId)
    (user : UserId) :
    (nobodyElse channel user).alone (machine cfg channel).exec env s =
      (.ok (!s.otherMembersPresent channel user), s) := by
  refine (Prog.alone_bind rfl).trans ?_
  unfold VoiceState.otherMembersPresent
  split
  · rename_i member
    simp [member, Prog.alone, pure, machine, exec]
  · rename_i stranger
    change (Except.ok (s.sessions.isEmpty channel), s) = _
    simp [stranger]

/-- A single thread runs `acquire_for_join`. -/
theorem acquireForJoin_alone (user : UserId) :
    (acquireForJoin channel user).alone (machine cfg channel).exec env s =
      (.ok (s.acquireForJoin cfg env channel user).1.toOption,
        (s.acquireForJoin cfg env channel user).2) := by
  rw [acquireForJoin, Prog.alone_bind (nobodyElse_alone cfg env s channel user)]
  cases others : s.otherMembersPresent channel user with
  | false =>
    obtain ⟨result, state⟩ := acquireForJoin_eq user (s.acquireAlone cfg env channel)
      (by rw [others]; rfl)
    rw [Bool.not_false, cond_true, Prog.alone_bind acquireAlone_alone, result, state]
    rfl
  | true =>
    obtain ⟨result, state⟩ := acquireForJoin_eq user (s.acquireShared cfg env channel user)
      (by rw [others]; rfl)
    rw [Bool.not_true, cond_false, Prog.alone_bind (acquireShared_alone user), result, state]
    rfl

/-! ## Redis and memory -/

section Stored

variable (cfg : Config) (channel : ChannelId)

/-- Redis holds the key manager's key and index, or neither holds any. -/
def Stored (k : KeyTables) : Prop :=
  match k.getKey channel with
  | some key => ∃ blob index, k.storedBlobs.lookup channel = some blob ∧
      k.storedIndices.lookup channel = some index ∧
      cfg.decryptKeyBlob blob.value = some key.key ∧ index.value = key.keyIndex
  | none => k.storedBlobs.lookup channel = none ∧ k.storedIndices.lookup channel = none

/-- Encryption succeeds, and decryption opens what it seals. -/
def Seals (env : Env) : Prop :=
  ∀ key, ∃ blob, env.encryptKeyBlob key = some blob ∧ cfg.decryptKeyBlob blob = some key

/-- A write outside the mutex writes what the key manager holds. -/
def StillCurrent (k : KeyTables) : KeyCall → Prop
  | .setexKey blob => ∃ key, k.getKey channel = some key ∧ cfg.decryptKeyBlob blob = some key.key
  | .setexIndex keyIndex => ∃ key, k.getKey channel = some key ∧ key.keyIndex = keyIndex
  | _ => True

end Stored

variable {k k' : KeyTables} {key : ChannelKey}

theorem stored_some (found : k.getKey channel = some key) :
    Stored cfg channel k ↔ ∃ blob index, k.storedBlobs.lookup channel = some blob ∧
      k.storedIndices.lookup channel = some index ∧
      cfg.decryptKeyBlob blob.value = some key.key ∧ index.value = key.keyIndex := by
  rw [Stored, found]

theorem stored_none (missing : k.getKey channel = none) :
    Stored cfg channel k ↔
      k.storedBlobs.lookup channel = none ∧ k.storedIndices.lookup channel = none := by
  rw [Stored, missing]

/-- Only the channel's three entries matter. -/
theorem Stored.of_same (stored : Stored cfg channel k) (key : k'.getKey channel = k.getKey channel)
    (blobs : k'.storedBlobs = k.storedBlobs) (indices : k'.storedIndices = k.storedIndices) :
    Stored cfg channel k' := by
  rw [Stored, key, blobs, indices]
  exact stored

/-- Persisting the key manager's key makes Redis agree. -/
theorem stored_persist (ready : cfg.storageKeyReady = true) (up : env.redis.Up)
    (seals : Seals cfg env) (nonempty : key.key ≠ "") (found : k.getKey channel = some key) :
    Stored cfg channel (k.persistToStorage cfg env channel key) := by
  obtain ⟨blob, encrypted, opens⟩ := seals key.key
  rw [stored_some (by rw [VoiceState.getKey_persistToStorage]; exact found)]
  have writes : k.persistToStorage cfg env channel key =
      k.writeStorage cfg env channel blob key.keyIndex := by
    simp [KeyTables.persistToStorage, ready, nonempty, encrypted]
  rw [writes, KeyTables.writeStorage, Link.setex_up up, Link.setex_up up]
  exact ⟨_, _, Store.lookup_put_self _, Store.lookup_put_self _, opens, rfl⟩

theorem getKey_nonempty (found : k.getKey channel = some key) : key.key ≠ "" := by
  obtain ⟨-, nonempty⟩ := Option.filter_eq_some_iff.mp found
  exact of_decide_eq_true nonempty

/-- The entry that a failed draw leaves reads as no entry. -/
theorem getKey_touch : (k.touch channel).getKey channel = k.getKey channel := by
  unfold KeyTables.touch
  split
  · rfl
  · rename_i absent
    have missing : k.channels.lookup channel = none := AList.lookup_eq_none.mpr absent
    simp [KeyTables.getKey, missing]

theorem touch_storedBlobs : (k.touch channel).storedBlobs = k.storedBlobs := by
  unfold KeyTables.touch
  split <;> rfl

theorem touch_storedIndices : (k.touch channel).storedIndices = k.storedIndices := by
  unfold KeyTables.touch
  split <;> rfl

/-- A draw installs a key, or leaves everything that matters. -/
theorem drawKey_cases (nonempty : ∀ n, cfg.generateKey n ≠ some "") (keyIndex : Nat) :
    ((s.drawKey cfg channel keyIndex).1 = none ∧
      (s.drawKey cfg channel keyIndex).2.keys = s.keys.touch channel) ∨
    ∃ key, key.key ≠ "" ∧ (s.drawKey cfg channel keyIndex).1 = some key ∧
      (s.drawKey cfg channel keyIndex).2.keys.getKey channel = some key := by
  unfold VoiceState.drawKey
  cases drawn : cfg.generateKey s.keyDraws with
  | none => exact .inl ⟨rfl, rfl⟩
  | some text =>
    grind [VoiceState.getKey_install]

/-! ## What the calls keep -/

section Keeps

variable (ready : cfg.storageKeyReady = true) (nonempty : ∀ n, cfg.generateKey n ≠ some "")
  (up : env.redis.Up) (seals : Seals cfg env)

include ready nonempty up seals

section

variable (stored : Stored cfg channel s.keys)

include stored

/-- A draw and the persist after it. -/
theorem stored_drawKey (draws : s.drawKey cfg channel keyIndex = (drawn, s')) :
    (drawn = none → Stored cfg channel s'.keys) ∧ ∀ key, drawn = some key →
        Stored cfg channel (s'.keys.persistToStorage cfg env channel key) := by
  rcases drawKey_cases (s := s) nonempty keyIndex with ⟨failed, kept⟩ | ⟨key, filled, made, found⟩
  · rw [draws] at failed kept
    constructor
    · intro _
      rw [kept]
      exact stored.of_same getKey_touch touch_storedBlobs touch_storedIndices
    · intro key some_key
      nomatch failed.symm.trans some_key
  · grind [stored_persist]

theorem stored_rotateAndBroadcast :
    Stored cfg channel (s.rotateAndBroadcast cfg env channel).2.keys := by
  unfold VoiceState.rotateAndBroadcast VoiceState.rotateKey
  rcases draws : s.drawKey cfg channel (s.keys.nextIndex channel) with ⟨_ | key, s'⟩
  · exact (stored_drawKey ready nonempty up seals stored draws).1 rfl
  · exact (stored_drawKey ready nonempty up seals stored draws).2 key rfl

/-- Creating a key where there is none, and the persist after it. -/
theorem stored_getOrCreateKey (missing : s.keys.getKey channel = none)
    (creates : s.getOrCreateKey cfg channel = (made, s')) :
    (made = none → Stored cfg channel s'.keys) ∧ ∀ key, made = some key →
        Stored cfg channel (s'.keys.persistToStorage cfg env channel key) := by
  unfold VoiceState.getOrCreateKey at creates
  rw [missing] at creates
  exact stored_drawKey ready nonempty up seals stored creates

theorem stored_acquireLocked (empty : Option Bool) :
    Stored cfg channel (acquireLocked cfg channel env s empty).2.keys := by
  unfold acquireLocked
  cases found : s.keys.getKey channel with
  | some key =>
    exact stored_persist ready up seals (getKey_nonempty found) found
  | none =>
    have both := (stored_none found).mp stored
    dsimp only
    split
    · unfold VoiceState.acquireFresh
      rcases creates : s.getOrCreateKey cfg channel with ⟨_ | key, s'⟩
      · exact (stored_getOrCreateKey ready nonempty up seals stored found creates).1 rfl
      · exact (stored_getOrCreateKey ready nonempty up seals stored found creates).2 key rfl
    · have nothing : s.keys.loadFromStorage cfg env channel = (none, s.keys) := by
        have unread : env.redis.get KeyTables.keyStorageKey s.keys.storedBlobs channel = none := by
          rw [Link.get_up up, Store.live, both.1, Option.bind_none]
        unfold KeyTables.loadFromStorage
        rw [unread]
        split <;> rfl
      unfold VoiceState.acquireRecovered
      rw [nothing]
      dsimp only
      rcases creates : s.getOrCreateKey cfg channel with ⟨_ | key, s'⟩
      · exact (stored_getOrCreateKey ready nonempty up seals stored found creates).1 rfl
      · exact (stored_getOrCreateKey ready nonempty up seals stored found creates).2 key rfl

/-- Every call keeps Redis and memory together, the unlocked writes where they write the
current key. -/
theorem stored_exec (c : KeyCall) (current : StillCurrent cfg channel s.keys c) :
    Stored cfg channel (exec cfg channel env s c).2.keys := by
  cases c with
  | userChannel user | isEmpty | getKey | isChannelEffectivelyEmpty | encryptKeyBlob key =>
    exact stored
  | recordJoin user | clearDebounce => exact stored.of_same rfl rfl rfl
  | rotateAndBroadcast => exact stored_rotateAndBroadcast ready nonempty up seals stored
  | acquireLocked empty => exact stored_acquireLocked ready nonempty up seals stored empty
  | setexKey blob =>
    obtain ⟨key, found, opens⟩ := current
    obtain ⟨old, index, -, indexed, -, same⟩ := (stored_some found).mp stored
    have kept : (exec cfg channel env s (.setexKey blob)).2.keys.getKey channel = some key := found
    apply (stored_some kept).mpr
    change ∃ blob index, (env.redis.setex _ _ _ _ _).lookup channel = some blob ∧ _
    rw [Link.setex_up up]
    exact ⟨_, index, Store.lookup_put_self _, indexed, opens, same⟩
  | setexIndex keyIndex =>
    obtain ⟨key, found, rfl⟩ := current
    obtain ⟨blob, old, held, -, opens, -⟩ := (stored_some found).mp stored
    have kept : (exec cfg channel env s (.setexIndex key.keyIndex)).2.keys.getKey channel =
        some key := found
    apply (stored_some kept).mpr
    change ∃ blob index, _ ∧ (env.redis.setex _ _ _ _ _).lookup channel = some index ∧ _
    rw [Link.setex_up up]
    exact ⟨blob, _, held, Store.lookup_put_self _, opens, rfl⟩
  | clearLocked =>
    change Stored cfg channel (clearLocked channel env s.keys)
    have missing : (clearLocked channel env s.keys).getKey channel = none := by
      simp [clearLocked, KeyTables.getKey]
    rw [stored_none missing]
    simp [clearLocked, Link.del_up up]

end

end Keeps

end Invariant

/-- The environment of a call and the moment it is made in: Redis executes every command,
encryption works, and an unlocked write is still of the channel's key. -/
def Orderly (cfg : Config) (channel : ChannelId)
    (scene : Scene KeyCall KeyCall.Answer Unit KeyCommand (Option ChannelKey) VoiceState) (_ : Nat)
    (env : Env) (c : KeyCall) : Prop :=
  env.redis.Up ∧ Seals cfg env ∧ StillCurrent cfg channel scene.shared.keys c

/-- **The stored key.**  Redis and the key manager hold the same key and index, or neither
holds one, after any interleaving of calls in which nobody writes a key back that is not
the channel's any more. -/
theorem redis_holds_current_key (cfg : Config) (channel : ChannelId)
    (ready : cfg.storageKeyReady = true) (nonempty : ∀ n, cfg.generateKey n ≠ some "")
    (world : VoiceState) (stored : Stored cfg channel world.keys)
    (moves : List (Lib.Move KeyCommand Env))
    (orderly : Staged (Pool.step (machine cfg channel)) (Pool.NextCall (Orderly cfg channel))
      (Pool.idle world) moves) :
    Stored cfg channel
      (run (Pool.step (machine cfg channel)) (Pool.idle world) moves).scene.shared.keys := by
  apply Pool.shared_invariant _ (fun s => Stored cfg channel s.keys) ?_ orderly stored
  rintro scene i env c held ⟨up, seals, current⟩
  exact stored_exec ready nonempty up seals held c current

/-! ## A key written back too late -/

namespace WriteBack

open VoiceState Sample

/-- Ada alone in the lounge, with a key in memory and in Redis. -/
def world : VoiceState := run (VoiceState.step cfg) start adaIn

def turns (is : List Nat) : List (Lib.Move KeyCommand Env) := is.map fun i => .turn i (Sample.env 5)

/-- Ada's client asks for its channel again; the key is rotated after she has read it. -/
def late : List (Lib.Move KeyCommand Env) :=
  [.start (.acquireForJoin ada), .start .rotateAndBroadcast] ++
    turns [0, 0, 1, 1, 0, 0, 0, 0]

/-- The same calls, the rotation last. -/
def inOrder : List (Lib.Move KeyCommand Env) :=
  [.start (.acquireForJoin ada), .start .rotateAndBroadcast] ++
    turns [0, 0, 0, 0, 0, 0, 1, 1]

def after (moves : List (Lib.Move KeyCommand Env)) :=
  run (Pool.step (machine cfg lounge)) (Pool.idle world) moves

theorem world_stored : Stored cfg lounge world.keys := by
  exact ⟨_, _, rfl, rfl, rfl, rfl⟩

theorem env_orderly (current : StillCurrent cfg lounge k c) :
    (Sample.env 5).redis.Up ∧ Seals cfg (Sample.env 5) ∧ StillCurrent cfg lounge k c :=
  ⟨(env_answers 5).redis, fun key => ⟨key, rfl, rfl⟩, current⟩

/-- The rotation's key is the channel's, and Redis is left with the one before it. -/
theorem old_key_in_redis :
    (after late).tasks.all Option.isNone = true ∧
      (after late).scene.shared.keys.getKey lounge = some ⟨"kk", 1⟩ ∧
      ((after late).scene.shared.keys.storedBlobs.lookup lounge).map Entry.value = some "k" ∧
      ((after late).scene.shared.keys.storedIndices.lookup lounge).map Entry.value = some 0 := by
  decide

/-- With the rotation last, memory and Redis both have its key. -/
theorem redis_holds_current_key_in_order :
    (after inOrder).scene.shared.keys.getKey lounge = some ⟨"kk", 1⟩ ∧
      Stored cfg lounge (after inOrder).scene.shared.keys := by
  constructor
  · decide
  · apply redis_holds_current_key cfg lounge rfl _ world world_stored
    · exact ⟨trivial, trivial, env_orderly trivial, env_orderly trivial, env_orderly trivial,
        env_orderly ⟨_, rfl, rfl⟩, env_orderly ⟨_, rfl, rfl⟩, trivial, env_orderly trivial, trivial,
        trivial⟩
    · intro n same
      have := congrArg String.length (Option.some.inj same)
      simp [drawn] at this

end WriteBack

end KeyRaces

end Kergit
