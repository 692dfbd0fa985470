import Kergit.Lib.Staged
import Kergit.ChannelKeyService

/-!
The stored copy of a channel's key, entry by entry.

`persist_to_storage` writes two Redis entries, the encrypted key and, in the clear, its
index in the keyring; `clear_storage` deletes both and `load_from_storage` reads both.
Nothing makes the two commands one: either can be lost while the other is executed, and
`RedisClient` tells nobody.  `persistAt`, `clearAt` and `loadAt` are the three functions with
a `Link` for each command; with one link for all they are those of `ChannelKeyService`.

A `StoredKey` is the storage with the keys that have been the channel's, as they were handed
to `persist_to_storage`.  `Paired` says that what the two entries hold together was one of
them; it survives every operation that is `Whole`.
-/

namespace Kergit

open Lib

namespace KeyTables

section Commands

variable (cfg : Config) (k : KeyTables) (channel : ChannelId) (blobLink indexLink : Link)

/-- The two `setex` commands. -/
def writeAt (blob : String) (keyIndex : Nat) : KeyTables :=
  { k with
    storedBlobs := blobLink.setex keyStorageKey k.storedBlobs channel cfg.keyTtl blob
    storedIndices := indexLink.setex indexStorageKey k.storedIndices channel cfg.keyTtl keyIndex }

-- `persist_to_storage`, given what `encrypt_key_blob` makes of the key.
def persistAt (encrypted : Option String) (key : ChannelKey) : KeyTables :=
  if !cfg.storageKeyReady ∨ key.key = "" then k
  else
    match encrypted with
    | none => k
    | some blob => k.writeAt cfg channel blobLink indexLink blob key.keyIndex

def loadAt (readBlob readIndex writeBlob writeIndex : Link) : Option ChannelKey × KeyTables :=
  if !cfg.storageKeyReady then (none, k)
  else
    match readBlob.get keyStorageKey k.storedBlobs channel with
    | none => (none, k)
    | some raw =>
      if raw = "" then (none, k)
      else
        match cfg.decryptKeyBlob raw with
        | none => (none, k)
        | some key =>
          let keyIndex :=
            (readIndex.get indexStorageKey k.storedIndices channel).getD 0 % keyringSize
          (some ⟨key, keyIndex⟩, k.writeAt cfg channel writeBlob writeIndex raw keyIndex)

def clearAt : KeyTables :=
  { k with
    storedBlobs := blobLink.del keyStorageKey k.storedBlobs channel
    storedIndices := indexLink.del indexStorageKey k.storedIndices channel }

variable {cfg k channel}

/-- Over one link these are the functions of `ChannelKeyService`. -/
theorem persistToStorage_eq (env : Env) (key : ChannelKey) :
    k.persistToStorage cfg env channel key =
      k.persistAt cfg channel env.redis env.redis (env.encryptKeyBlob key.key) key := rfl

theorem loadFromStorage_eq (env : Env) :
    k.loadFromStorage cfg env channel =
      k.loadAt cfg channel env.redis env.redis env.redis env.redis := rfl

end Commands

end KeyTables

/-! ## Operations -/

/-- A call of `persist_to_storage` with a key of the channel; the cipher opens what it has
sealed. -/
structure PersistCall (cfg : Config) where
  key : ChannelKey
  slot : key.keyIndex < keyringSize
  encrypted : Option String
  opens : ∀ blob, encrypted = some blob → cfg.decryptKeyBlob blob = some key.key
  blobLink : Link
  indexLink : Link

/-- A call of `load_from_storage`, with a link for each of its commands. -/
structure LoadCall where
  readBlob : Link
  readIndex : Link
  writeBlob : Link
  writeIndex : Link

inductive StorageOp (cfg : Config) where
  | persist (call : PersistCall cfg)
  | clear (blobLink indexLink : Link)
  | load (call : LoadCall)

/-- The storage, and the keys that have been the channel's so far. -/
structure StoredKey where
  tables : KeyTables := {}
  currents : List ChannelKey := []

namespace StoredKey

variable (cfg : Config) (channel : ChannelId)

def load (s : StoredKey) (call : LoadCall) : Option ChannelKey × KeyTables :=
  s.tables.loadAt cfg channel call.readBlob call.readIndex call.writeBlob call.writeIndex

/-- One operation.  Time and with it expiry are in the links. -/
def step (s : StoredKey) : StorageOp cfg → StoredKey
  | .persist call =>
    { tables := s.tables.persistAt cfg channel call.blobLink call.indexLink call.encrypted call.key
      currents := call.key :: s.currents }
  | .clear blobLink indexLink => { s with tables := s.tables.clearAt channel blobLink indexLink }
  | .load call => { s with tables := (s.load cfg channel call).2 }

/-- What the two entries hold together was the channel's key with its index. -/
def Paired (s : StoredKey) : Prop :=
  ∀ blob index key, s.tables.storedBlobs.lookup channel = some blob →
    s.tables.storedIndices.lookup channel = some index → cfg.decryptKeyBlob blob.value = some key →
    index.value < keyringSize ∧ ⟨key, index.value⟩ ∈ s.currents

/-- The operation does not tear the entries apart.  Of the two writes of a `persist` one is
lost only together with the other, or where it would write what is there already; a `load`
that reads the key finds an index. -/
def Whole (s : StoredKey) : StorageOp cfg → Prop
  | .persist call =>
    (call.blobLink.up .setex (KeyTables.keyStorageKey channel) = true →
      call.indexLink.up .setex (KeyTables.indexStorageKey channel) = true ∨
      ∀ index, s.tables.storedIndices.lookup channel = some index →
        index.value = call.key.keyIndex) ∧
    (call.indexLink.up .setex (KeyTables.indexStorageKey channel) = true →
      call.blobLink.up .setex (KeyTables.keyStorageKey channel) = true ∨
      ∀ blob, s.tables.storedBlobs.lookup channel = some blob →
        cfg.decryptKeyBlob blob.value = some call.key.key)
  | .clear _ _ => True
  | .load call =>
    call.readBlob.get KeyTables.keyStorageKey s.tables.storedBlobs channel ≠ none →
      call.readIndex.get KeyTables.indexStorageKey s.tables.storedIndices channel ≠ none

variable {cfg channel} {s : StoredKey}

/-- An entry after a `setex` is the old one, or the new one if the command was executed. -/
theorem lookup_setex {V : Type} {m : Store ChannelId V} {link : Link}
    {ttl : Nat} {v : V} {entry : Entry V}
    (found : (link.setex name m channel ttl v).lookup channel = some entry) :
    (link.up .setex (name channel) = true ∧ entry.value = v) ∨
      (¬ link.up .setex (name channel) = true ∧ m.lookup channel = some entry) := by
  unfold Link.setex at found
  split at found
  · rename_i executed
    left
    rw [Store.put, Map.lookup_insert_if, if_pos rfl] at found
    exact ⟨executed, by rw [← Option.some.inj found]⟩
  · rename_i lost
    exact .inr ⟨lost, found⟩

theorem lookup_del {V : Type} {m : Store ChannelId V} {link : Link}
    {entry : Entry V} (found : (link.del name m channel).lookup channel = some entry) :
    m.lookup channel = some entry := by
  unfold Link.del at found
  grind

/-- A read shows an entry. -/
theorem lookup_of_get {V : Type} {m : Store ChannelId V} {link : Link}
    {v : V} (shown : link.get name m channel = some v) :
    ∃ entry, m.lookup channel = some entry ∧ entry.value = v := by
  unfold Link.get at shown
  split at shown
  · obtain ⟨entry, found, -, same⟩ := Store.live_eq_some.mp shown
    exact ⟨entry, found, same⟩
  · cases shown

section

variable (paired : Paired cfg channel s)

include paired

theorem Paired.grown (key : ChannelKey) :
    Paired cfg channel { s with currents := key :: s.currents } := by
  intro blob index k stored indexed opened
  obtain ⟨slot, current⟩ := paired blob index k stored indexed opened
  exact ⟨slot, List.mem_cons_of_mem _ current⟩

theorem Paired.persist (call : PersistCall cfg) (whole : Whole cfg channel s (.persist call)) :
    Paired cfg channel (s.step cfg channel (.persist call)) := by
  change Paired cfg channel
    { tables := s.tables.persistAt cfg channel call.blobLink call.indexLink call.encrypted call.key
      currents := call.key :: s.currents }
  unfold KeyTables.persistAt
  split
  · exact paired.grown call.key
  · split
    · exact paired.grown call.key
    · rename_i sealed encrypted
      obtain ⟨noOldIndex, noOldBlob⟩ := whole
      have opens := call.opens sealed encrypted
      intro blob index k stored indexed opened
      rcases lookup_setex stored with ⟨blobUp, newBlob⟩ | ⟨blobLost, oldBlob⟩
      · rw [newBlob, opens] at opened
        obtain rfl := Option.some.inj opened
        have same : index.value = call.key.keyIndex := by
          rcases lookup_setex indexed with ⟨-, newIndex⟩ | ⟨indexLost, oldIndex⟩
          · exact newIndex
          · grind
        rw [same]
        exact ⟨call.slot, List.mem_cons_self⟩
      · rcases lookup_setex indexed with ⟨indexUp, newIndex⟩ | ⟨-, oldIndex⟩
        · rcases noOldBlob indexUp with blobUp | kept
          · exact absurd blobUp blobLost
          · rw [kept blob oldBlob] at opened
            obtain rfl := Option.some.inj opened
            rw [newIndex]
            exact ⟨call.slot, List.mem_cons_self⟩
        · exact paired.grown call.key blob index k oldBlob oldIndex opened

theorem Paired.clear (blobLink indexLink : Link) :
    Paired cfg channel (s.step cfg channel (.clear blobLink indexLink)) := by
  intro blob index k stored indexed opened
  exact paired blob index k (lookup_del stored) (lookup_del indexed) opened

/-- What a whole load finds: the two entries, and the answer they make. -/
theorem load_cases (call : LoadCall) (whole : Whole cfg channel s (.load call)) :
    s.load cfg channel call = (none, s.tables) ∨
      ∃ blob index key, s.tables.storedBlobs.lookup channel = some blob ∧
        s.tables.storedIndices.lookup channel = some index ∧
        cfg.decryptKeyBlob blob.value = some key ∧ ⟨key, index.value⟩ ∈ s.currents ∧
        s.load cfg channel call = (some ⟨key, index.value⟩,
          s.tables.writeAt cfg channel call.writeBlob call.writeIndex blob.value index.value) := by
  unfold load KeyTables.loadAt
  split
  · exact .inl rfl
  · split
    · exact .inl rfl
    · rename_i raw shown
      split
      · exact .inl rfl
      · split
        · exact .inl rfl
        · rename_i key opened
          right
          have found := whole (by rw [shown]; simp)
          obtain ⟨number, told⟩ := Option.ne_none_iff_exists'.mp found
          obtain ⟨blob, stored, rfl⟩ := lookup_of_get shown
          obtain ⟨index, indexed, rfl⟩ := lookup_of_get told
          obtain ⟨slot, current⟩ := paired blob index key stored indexed opened
          refine ⟨blob, index, key, stored, indexed, opened, current, ?_⟩
          simp only [told, Option.getD_some, Nat.mod_eq_of_lt slot]

theorem Paired.load (call : LoadCall) (whole : Whole cfg channel s (.load call)) :
    Paired cfg channel (s.step cfg channel (.load call)) := by
  change Paired cfg channel { s with tables := (s.load cfg channel call).2 }
  rcases load_cases paired call whole with nothing | ⟨blob, index, key, stored, indexed, -, -, does⟩
  · rw [nothing]
    exact paired
  · rw [does]
    intro blob' index' key' stored' indexed' opened'
    have sameBlob : blob'.value = blob.value := by
      rcases lookup_setex stored' with ⟨-, same⟩ | ⟨-, old⟩
      · exact same
      · rw [Option.some.inj (old.symm.trans stored)]
    have sameIndex : index'.value = index.value := by
      rcases lookup_setex indexed' with ⟨-, same⟩ | ⟨-, old⟩
      · exact same
      · rw [Option.some.inj (old.symm.trans indexed)]
    rw [sameBlob] at opened'
    rw [sameIndex]
    exact paired blob index key' stored indexed opened'

end

theorem Paired.run (whole : Staged (step cfg channel) (Whole cfg channel) {} ops) :
    Paired cfg channel (Lib.run (step cfg channel) {} ops) := by
  refine whole.invariant (Paired cfg channel) ?_ ?_
  · intro s op paired here
    cases op with
    | persist call => exact paired.persist call here
    | clear blobLink indexLink => exact paired.clear blobLink indexLink
    | load call => exact paired.load call here
  · intro blob index key stored
    nomatch stored

end StoredKey

open StoredKey in
/-- **Key and index.**  After every history in which no operation tears the two entries
apart, a key and an index that are loaded together were the channel's key and its index. -/
theorem restored_pair_was_current (cfg : Config) (channel : ChannelId) (ops : List (StorageOp cfg))
    (call : LoadCall) (whole : Staged (step cfg channel) (Whole cfg channel) {} (ops ++ [.load call]))
    (key : ChannelKey)
    (loaded : ((run (step cfg channel) {} ops).load cfg channel call).1 = some key) :
    key ∈ (run (step cfg channel) {} ops).currents := by
  obtain ⟨before, last⟩ := staged_concat.mp whole
  rcases load_cases (Paired.run before) call last with
    nothing | ⟨blob, index, held, -, -, -, current, does⟩
  · rw [nothing] at loaded
    nomatch loaded
  · rw [does] at loaded
    rw [← Option.some.inj loaded]
    exact current

/-! ## A torn write -/

namespace TornKey

def lounge : ChannelId := ⟨"lounge"⟩

def cfg : Config where
  generateKey := fun n => some (toString n)
  generateNonceHex := toString

def up : Link := ⟨0, fun _ _ => true⟩

def down : Link := ⟨0, fun _ _ => false⟩

/-- The second of two writes is lost. -/
def noIndex : Link := ⟨0, fun _ key => key ≠ KeyTables.indexStorageKey lounge⟩

def first : PersistCall cfg where
  key := ⟨"first", 0⟩
  slot := by decide
  encrypted := some "first"
  opens := fun _ same => same.symm
  blobLink := up
  indexLink := up

/-- The rotation to the next slot of the keyring, seen by Redis in part. -/
def second (blobLink indexLink : Link) : PersistCall cfg where
  key := ⟨"second", 1⟩
  slot := by decide
  encrypted := some "second"
  opens := fun _ same => same.symm
  blobLink := blobLink
  indexLink := indexLink

def load : LoadCall := ⟨up, up, up, up⟩

open StoredKey

/-- The second key comes back with the index of the first, which it never had. -/
theorem second_key_with_first_index :
    let s := run (step cfg lounge) {} [.persist first, .persist (second up noIndex)]
    (s.load cfg lounge load).1 = some ⟨"second", 0⟩ ∧ ⟨"second", 0⟩ ∉ s.currents := by
  decide

/-- Both writes of the rotation are lost, and the first pair comes back. -/
theorem restored_pair_was_current_unseen :
    ⟨"first", 0⟩ ∈
      (run (step cfg lounge) {} [.persist first, .persist (second down down)]).currents := by
  apply restored_pair_was_current cfg lounge [.persist first, .persist (second down down)] load
  · refine ⟨⟨?_, ?_⟩, ⟨?_, ?_⟩, ?_, trivial⟩
    · exact fun _ => .inl rfl
    · exact fun _ => .inl rfl
    · exact fun executed => absurd executed (by decide)
    · exact fun executed => absurd executed (by decide)
    · intro _
      decide
  · decide

end TornKey

end Kergit
