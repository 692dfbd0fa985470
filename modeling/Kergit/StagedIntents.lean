import Kergit.Lib.Staged
import Kergit.MetadataCodec
import Kergit.VoiceStores

/-!
`PendingJoinIntentStore` with its documents and its clock.

`VoiceStores` keeps intents as records and lets a whole call happen at one instant.  Here a
document is the JSON object the source writes, read back field by field with the checks of
`read`; the clock counts milliseconds; and each command to Redis has a `Link` of its own, so
that time passes between the `TTL` and the `SETEX` of one `update`.  Redis answers `TTL` in
seconds, rounded to the nearest.

- `ofDocument_document`: what is written reads back as the intent that `VoiceStores` keeps.
- `stage` answers yes whether or not the `SETEX` got through, so a staged intent can be
  missing, or an older one can be read in its place.
- `update` writes for the lifetime that `TTL` told, from the moment of the `SETEX` on: the
  time in between and the rounding are given to the document.
-/

namespace Kergit

open Lib

namespace StagedIntents

/-! ## Documents -/

def document (user : UserId) (intent : PendingJoinIntent) (expiresAtUnix : Nat) : Document :=
  Map.gather [
    ("user_id", .string user.value),
    ("session_id", .unsigned intent.sessionId),
    ("intent_nonce", .string intent.intentNonce),
    ("to_channel", .string intent.toChannel.value),
    ("from_channel", .string (if intent.hasFromChannel then intent.fromChannel.value else "")),
    ("has_from_channel", .boolean intent.hasFromChannel),
    ("muted", .boolean intent.muted),
    ("deafened", .boolean intent.deafened),
    ("old_leave_seen", .boolean intent.oldLeaveSeen),
    ("new_join_seen", .boolean intent.newJoinSeen),
    ("expires_at_unix", .unsigned expiresAtUnix)]

def ofDocument (doc : Document) : Option PendingJoinIntent := do
  let sessionId ←
    match doc.lookup "session_id" with
    | some (.unsigned value) => some value
    | some (.string text) => stoull text
    | _ => some 0
  let toChannel ←
    match doc.lookup "to_channel" with
    | some (.string text) => some text
    | _ => none
  let fromChannel := doc.text "from_channel"
  some {
    sessionId
    intentNonce := doc.text "intent_nonce"
    toChannel := ⟨toChannel⟩
    fromChannel := ⟨fromChannel⟩
    hasFromChannel := doc.flag "has_from_channel" || fromChannel ≠ ""
    muted := doc.flag "muted"
    deafened := doc.flag "deafened"
    oldLeaveSeen := doc.flag "old_leave_seen"
    newJoinSeen := doc.flag "new_join_seen"
    expiresAtUnix :=
      match doc.lookup "expires_at_unix" with
      | some (.unsigned value) => value
      | _ => 0 }

/-- What a read owes the writer: everything but the time of expiry, and the old channel only
where there is one. -/
structure Agrees (intent got : PendingJoinIntent) : Prop where
  session : got.sessionId = intent.sessionId
  nonce : got.intentNonce = intent.intentNonce
  toChannel : got.toChannel = intent.toChannel
  hasFrom : got.hasFromChannel = intent.hasFromChannel
  fromChannel : got.fromChannel = if intent.hasFromChannel then intent.fromChannel else {}
  muted : got.muted = intent.muted
  deafened : got.deafened = intent.deafened
  oldLeave : got.oldLeaveSeen = intent.oldLeaveSeen
  newJoin : got.newJoinSeen = intent.newJoinSeen

variable (user : UserId) (intent : PendingJoinIntent)

/-- The document reads back as the record of `VoiceStores`. -/
theorem ofDocument_document (expiresAtUnix : Nat) :
    ofDocument (document user intent expiresAtUnix) =
      some ({ intent.toDoc with expiresAtUnix } : PendingJoinIntent).ofDoc := by
  obtain ⟨session, nonce, ⟨next⟩, ⟨old⟩, has, muted, deafened, left, joined, -⟩ := intent
  cases has <;>
    by_cases empty : old = "" <;>
    simp [ofDocument, document, Map.gather, Document.text, Document.flag, PendingJoinIntent.toDoc,
      PendingJoinIntent.ofDoc]

theorem agrees_ofDoc (expiresAtUnix : Nat) :
    Agrees intent ({ intent.toDoc with expiresAtUnix } : PendingJoinIntent).ofDoc := by
  obtain ⟨session, nonce, ⟨next⟩, ⟨old⟩, has, muted, deafened, left, joined, -⟩ := intent
  cases has <;>
    by_cases empty : old = "" <;>
    constructor <;>
    simp [PendingJoinIntent.toDoc, PendingJoinIntent.ofDoc, empty]

/-! ## Calls -/

/-- The store; deadlines are in milliseconds. -/
abbrev Documents := Store UserId Document

/-- The rounding of Redis's `TTL`. -/
def seconds (milliseconds : Nat) : Nat := (milliseconds + 500) / 1000

section Calls

variable (store : Documents)

-- `PendingJoinIntentStore::stage`; `RedisClient::setex` throws nothing.
def stage (link : Link) (unixNow expiresInSeconds : Nat) : Bool × Documents :=
  let ttl := expiresInSeconds + 10
  (true, link.setex pendingJoinKey store user (1000 * ttl) (document user intent (unixNow + ttl)))

def read (link : Link) : Option PendingJoinIntent :=
  (link.get pendingJoinKey store user).bind ofDocument

-- `PendingJoinIntentStore::update`; `asked` is the link at the `TTL`, `written` the
-- one at the `SETEX`.
def update (asked written : Link) : Bool × Documents :=
  match (asked.ttl pendingJoinKey store user).map seconds with
  | none => (false, store)
  | some ttl =>
    if ttl = 0 then (false, store)
    else (true, written.setex pendingJoinKey store user (1000 * ttl)
      (document user intent intent.expiresAtUnix))

def clear (link : Link) : Documents := link.del pendingJoinKey store user

end Calls

inductive Call where
  | stage (user : UserId) (intent : PendingJoinIntent) (link : Link) (unixNow expiresIn : Nat)
  | read (user : UserId) (link : Link)
  | update (user : UserId) (intent : PendingJoinIntent) (asked written : Link)
  | clear (user : UserId) (link : Link)

/-- Whose intent a call is to change. -/
def Call.writes : Call → Option UserId
  | .stage user .. | .update user .. | .clear user .. => some user
  | .read .. => none

def perform (store : Documents) : Call → Documents
  | .stage user intent link unixNow expiresIn => (stage user intent store link unixNow expiresIn).2
  | .read .. => store
  | .update user intent asked written => (update user intent store asked written).2
  | .clear user link => clear user store link

variable {user intent} {store : Documents} {link : Link}

theorem lookup_setex (differ : user ≠ other) (ttl : Nat) (doc : Document) :
    (link.setex pendingJoinKey store other ttl doc).lookup user = store.lookup user := by
  unfold Link.setex
  split
  · rw [Store.put, Map.lookup_insert_if, if_neg differ]
  · rfl

theorem lookup_perform (other : call.writes ≠ some user) :
    (perform store call).lookup user = store.lookup user := by
  cases call with
  | stage owner intent link unixNow expiresIn =>
    exact lookup_setex (fun same => other (congrArg some same.symm)) _ _
  | read owner link => rfl
  | update owner intent asked written =>
    have differ : user ≠ owner := fun same => other (congrArg some same.symm)
    change (update owner intent store asked written).2.lookup user = _
    unfold update
    split
    · rfl
    · split
      · rfl
      · exact lookup_setex differ _ _
  | clear owner link =>
    have differ : user ≠ owner := fun same => other (congrArg some same.symm)
    change (link.del pendingJoinKey store owner).lookup user = _
    unfold Link.del
    split
    · rw [Map.lookup_erase_if, if_neg differ]
    · rfl

/-- Calls for other users, and reads, leave a user's document alone. -/
theorem lookup_run (others : ∀ call ∈ calls, call.writes ≠ some user) :
    (run perform store calls).lookup user = store.lookup user := by
  induction calls generalizing store with
  | nil => rfl
  | cons call rest ih =>
    rw [run_cons, ih fun later listed => others later (List.mem_cons_of_mem _ listed)]
    exact lookup_perform (others call List.mem_cons_self)

theorem read_of_lookup (found : store.lookup user = some entry)
    (alive : entry.alive link.now = true) (up : link.up .get (pendingJoinKey user) = true) :
    read user store link = ofDocument entry.value := by
  have live : store.live link.now user = some entry.value :=
    Store.live_eq_some.mpr ⟨entry, found, alive, rfl⟩
  rw [read, Link.get, if_pos up, live, Option.bind_some]

/-! ## Staged intents -/

/-- What staging promises: whatever is called meanwhile that changes nothing of this user,
every read that gets through within the time to live finds the intent. -/
def Real (user : UserId) (intent : PendingJoinIntent) (store : Documents) (link : Link)
    (unixNow expiresIn : Nat) : Prop :=
  ∀ (calls : List Call) (later : Link), (∀ call ∈ calls, call.writes ≠ some user) →
    later.up .get (pendingJoinKey user) = true → link.now ≤ later.now →
    later.now < link.now + 1000 * (expiresIn + 10) →
    ∃ got, read user (run perform (stage user intent store link unixNow expiresIn).2 calls) later =
      some got ∧ Agrees intent got

/-- The store holds a document of the user that reads as the intent and lives long enough. -/
def Holds (user : UserId) (intent : PendingJoinIntent) (store : Documents) (till : Nat) : Prop :=
  ∃ entry, store.lookup user = some entry ∧ (∀ deadline, entry.deadline = some deadline →
    till ≤ deadline) ∧ ∃ got, ofDocument entry.value = some got ∧ Agrees intent got

theorem Holds.read (holds : Holds user intent store till)
    (others : ∀ call ∈ calls, call.writes ≠ some user)
    (up : link.up .get (pendingJoinKey user) = true) (soon : link.now < till) :
    ∃ got, read user (run perform store calls) link = some got ∧ Agrees intent got := by
  obtain ⟨entry, found, lasting, got, reads, agrees⟩ := holds
  have alive : entry.alive link.now = true := by
    unfold Entry.alive
    split
    · rfl
    · rename_i deadline limited
      exact decide_eq_true (Nat.lt_of_lt_of_le soon (lasting deadline limited))
  rw [read_of_lookup ((lookup_run others).trans found) alive up]
  exact ⟨got, reads, agrees⟩

/-- A read in the last instant tells that the document lives until then. -/
theorem holds_of_read (last : link.now + 1 = till)
    (reads : StagedIntents.read user store link = some got) (agrees : Agrees intent got) :
    Holds user intent store till := by
  obtain ⟨doc, shown, parsed⟩ := Option.bind_eq_some_iff.mp reads
  unfold Link.get at shown
  split at shown
  · obtain ⟨entry, found, alive, rfl⟩ := Store.live_eq_some.mp shown
    refine ⟨entry, found, fun deadline limited => ?_, got, parsed, agrees⟩
    rw [Entry.alive, limited] at alive
    have before := of_decide_eq_true alive
    omega
  · cases shown

/-- Staging holds its promise exactly when Redis takes the document, or has the like of it. -/
theorem real_iff (link : Link) (unixNow expiresIn : Nat) :
    Real user intent store link unixNow expiresIn ↔
      link.up .setex (pendingJoinKey user) = true ∨
        Holds user intent store (link.now + 1000 * (expiresIn + 10)) := by
  by_cases taken : link.up .setex (pendingJoinKey user) = true
  · refine iff_of_true ?_ (.inl taken)
    have holds : Holds user intent (stage user intent store link unixNow expiresIn).2
        (link.now + 1000 * (expiresIn + 10)) := by
      refine ⟨⟨document user intent (unixNow + (expiresIn + 10)),
        some (link.now + 1000 * (expiresIn + 10))⟩, ?_, fun deadline limited => ?_,
        _, ofDocument_document user intent _, agrees_ofDoc intent _⟩
      · rw [stage, Link.setex, if_pos taken, Store.put, Map.lookup_insert_if, if_pos rfl]
      · exact Nat.le_of_eq (Option.some.inj limited)
    intro calls later others up _ soon
    exact holds.read others up soon
  · have lost : (stage user intent store link unixNow expiresIn).2 = store := if_neg taken
    constructor
    · intro real
      right
      let last : Link := ⟨link.now + 1000 * (expiresIn + 10) - 1, fun _ _ => true⟩
      have early : link.now ≤ last.now := by
        change link.now ≤ link.now + 1000 * (expiresIn + 10) - 1
        omega
      have due : last.now + 1 = link.now + 1000 * (expiresIn + 10) := by
        change link.now + 1000 * (expiresIn + 10) - 1 + 1 = _
        omega
      obtain ⟨got, reads, agrees⟩ := real [] last (by simp) rfl early (by omega)
      rw [lost] at reads
      exact holds_of_read due reads agrees
    · rintro (taken' | holds)
      · exact absurd taken' taken
      · intro calls later others up _ soon
        rw [lost]
        exact holds.read others up soon

/-! ## Updated intents -/

/-- At the moment of the write, the user's document has no more time left than before. -/
def NotLengthened (user : UserId) (intent : PendingJoinIntent) (store : Documents)
    (asked written : Link) : Prop :=
  ∀ after, (update user intent store asked written).2.lifetime written.now user = some after →
    ∃ before, store.lifetime written.now user = some before ∧ after ≤ before

/-- Where `update` writes at all, the lifetime that `TTL` rounds was rounded down, by no less
than the time until the `SETEX`. -/
def Timely (user : UserId) (store : Documents) (asked written : Link) : Prop :=
  ∀ left, asked.ttl pendingJoinKey store user = some left → seconds left ≠ 0 →
    written.up .setex (pendingJoinKey user) = true →
    left % 1000 < 500 ∧ written.now - asked.now ≤ left % 1000

theorem lifetime_put (soon : now < till) :
    Store.lifetime (store.put user doc (some till)) now user = some (till - now) := by
  simp [Store.lifetime, Store.put, soon]

/-- A lifetime told at one instant says what is left at a later one. -/
theorem lifetime_later (told : store.lifetime asked user = some left)
    (now : Nat) : store.lifetime now user =
      if now < asked + left then some (asked + left - now) else none := by
  obtain ⟨entry, found, limited⟩ := Option.bind_eq_some_iff.mp told
  obtain ⟨deadline, due, alive⟩ := Option.bind_eq_some_iff.mp limited
  split at alive
  · have same : asked + left = deadline := by
      have := Option.some.inj alive
      omega
    simp [Store.lifetime, found, due, same]
  · nomatch alive

theorem notLengthened_iff (asked written : Link) (later : asked.now ≤ written.now) :
    NotLengthened user intent store asked written ↔ Timely user store asked written := by
  have unwritten : (update user intent store asked written).2 = store →
      NotLengthened user intent store asked written := by
    intro same after left
    rw [same] at left
    exact ⟨after, left, le_rfl⟩
  cases told : asked.ttl pendingJoinKey store user with
  | none =>
    refine iff_of_true (unwritten ?_) ?_
    · simp [update, told]
    · intro left told'
      rw [told] at told'
      nomatch told'
  | some left =>
    by_cases zero : seconds left = 0
    · refine iff_of_true (unwritten ?_) ?_
      · simp [update, told, zero]
      · intro left' told' nonzero
        rw [told] at told'
        exact absurd (Option.some.inj told' ▸ zero) nonzero
    · by_cases up : written.up .setex (pendingJoinKey user) = true
      · have gives : (update user intent store asked written).2 =
            store.put user (document user intent intent.expiresAtUnix)
              (some (written.now + 1000 * seconds left)) := by
          simp [update, told, zero, Link.setex, up]
        have has : store.lifetime asked.now user = some left := by
          unfold Link.ttl at told
          split at told
          · exact told
          · nomatch told
        have had := lifetime_later has written.now
        rw [NotLengthened, gives, lifetime_put (by omega), had]
        simp only [Timely, told, up, ne_eq, forall_const]
        unfold seconds at zero ⊢
        split
        · simp
          omega
        · simp
          omega
      · refine iff_of_true (unwritten ?_) fun _ _ _ up' => absurd up' up
        simp [update, told, zero, Link.setex, up]

/-- **Staged intents.**  A stage that answers yes (they all do) makes the intent readable for
its time to live exactly when its `SETEX` gets through or Redis has the like of it already;
and an update leaves the lifetime no longer than it was exactly when it writes nothing, or
the rounding of `TTL` makes up for the time until its `SETEX`. -/
theorem staged_intents_real (user : UserId) (intent : PendingJoinIntent) (store : Documents)
    (link : Link) (unixNow expiresIn : Nat) (asked written : Link)
    (later : asked.now ≤ written.now) :
    ((stage user intent store link unixNow expiresIn).1 = true →
      (Real user intent store link unixNow expiresIn ↔
        link.up .setex (pendingJoinKey user) = true ∨
          Holds user intent store (link.now + 1000 * (expiresIn + 10)))) ∧
    (NotLengthened user intent store asked written ↔ Timely user store asked written) :=
  ⟨fun _ => real_iff link unixNow expiresIn, notLengthened_iff asked written later⟩

/-! ## A lost write and a late one -/

namespace Outage

def alice : UserId := ⟨"alice"⟩

def wish : PendingJoinIntent := { sessionId := 1, intentNonce := "n", toChannel := ⟨"lobby"⟩ }

def up (now : Nat) : Link := ⟨now, fun _ _ => true⟩

/-- A moment in which writes do not get through. -/
def outage : Link := ⟨0, fun command _ => decide (command ≠ .setex)⟩

/-- The intent, staged for a minute at time zero. -/
def staged : Documents := (stage alice wish ∅ (up 0) 0 50).2

/-- Alice's intent is staged in an outage and nothing is there to read; and an update that
asks for the lifetime at 0.1 s and writes at 0.2 s makes 59.8 s a minute. -/
theorem staged_intent_is_missing :
    ((stage alice wish ∅ outage 0 50).1 = true ∧ ¬ Real alice wish ∅ outage 0 50) ∧
      staged.lifetime 200 alice = some 59800 ∧
      (update alice wish staged (up 100) (up 200)).2.lifetime 200 alice = some 60000 ∧
      ¬ NotLengthened alice wish staged (up 100) (up 200) := by
  have before : staged.lifetime 200 alice = some 59800 := by decide
  have after : (update alice wish staged (up 100) (up 200)).2.lifetime 200 alice = some 60000 := by
    decide
  refine ⟨⟨rfl, fun real => ?_⟩, before, after, fun kept => ?_⟩
  · obtain ⟨got, reads, -⟩ := real [] (up 1) (by simp) rfl (by decide) (by decide)
    have nothing : read alice (stage alice wish ∅ outage 0 50).2 (up 1) = none := by decide
    nomatch nothing.symm.trans reads
  · obtain ⟨left, told, fewer⟩ := kept 60000 after
    have same : some 59800 = some left := before.symm.trans told
    have := Option.some.inj same
    omega

/-- Without the outage the intent is there, and an update at once keeps its lifetime. -/
theorem staged_intents_real_up :
    Real alice wish staged (up 0) 0 50 ∧ NotLengthened alice wish staged (up 0) (up 0) := by
  obtain ⟨stages, updates⟩ :=
    staged_intents_real alice wish staged (up 0) 0 50 (up 0) (up 0) le_rfl
  constructor
  · exact (stages rfl).mpr (.inl rfl)
  · apply updates.mpr
    intro left told _ _
    have whole : (up 0).ttl pendingJoinKey staged alice = some 60000 := by decide
    rw [whole] at told
    cases told
    decide

end Outage

end StagedIntents

end Kergit
