import Kergit.Lib.ExpiringStore
import Kergit.Ids

/-!
The two Redis-backed stores of the voice code: pending join intents and resume
ids.

A pending join intent is what the command path leaves for the webhook path.
`VOICE_JOIN` stages one per user under the issued token's lifetime;
`participant_joined` and `participant_left` correlate LiveKit's events against
it; and a switch between two channels keeps it, with two flags, until both
events have been seen.  Redis is the only copy.  `RedisClient` catches every
failure: a lost read is the same as no intent, and a lost write passes for a
write.
-/

namespace Kergit

open Lib

structure PendingJoinIntent where
  sessionId : Nat := 0
  intentNonce : String := ""
  toChannel : ChannelId := {}
  fromChannel : ChannelId := {}
  hasFromChannel : Bool := false
  muted : Bool := false
  deafened : Bool := false
  oldLeaveSeen : Bool := false
  newJoinSeen : Bool := false
  expiresAtUnix : Nat := 0
deriving DecidableEq, Repr

namespace PendingJoinIntent

/-- The stored document: `from_channel` is blanked unless it is set. -/
def toDoc (intent : PendingJoinIntent) : PendingJoinIntent :=
  { intent with fromChannel := if intent.hasFromChannel then intent.fromChannel else {} }

/-- Reading a document back: a non-empty `from_channel` sets the flag. -/
def ofDoc (doc : PendingJoinIntent) : PendingJoinIntent :=
  if doc.fromChannel.value ≠ "" then { doc with hasFromChannel := true }
  else { doc with fromChannel := {} }

/-- The intent moves its user out of another channel: `has_from_channel` and
`from_channel != to_channel`. -/
def isSwitch (intent : PendingJoinIntent) : Bool :=
  intent.hasFromChannel && decide (intent.fromChannel ≠ intent.toChannel)

end PendingJoinIntent

/-- `"voice:pending_join:" + user`. -/
def pendingJoinKey (user : UserId) : String := "voice:pending_join:" ++ user.value

/-- Redis's view of the pending join intents. -/
abbrev PendingJoinIntentStore := Store UserId PendingJoinIntent

namespace PendingJoinIntentStore

variable (link : Link) (store : PendingJoinIntentStore) (user : UserId)

-- `PendingJoinIntentStore::stage`.  The client swallows a lost write,
-- so the answer is yes whether or not Redis took the document.
def stage (unixNow : Nat) (intent : PendingJoinIntent) (expiresInSeconds : Nat) :
    Bool × PendingJoinIntentStore :=
  let ttl := expiresInSeconds + 10
  (true, link.setex pendingJoinKey store user ttl
    { intent.toDoc with expiresAtUnix := unixNow + ttl })

def read : Option PendingJoinIntent :=
  (link.get pendingJoinKey store user).map PendingJoinIntent.ofDoc

-- `PendingJoinIntentStore::update`; the rewritten document keeps the
-- remaining lifetime.
def update (intent : PendingJoinIntent) : Bool × PendingJoinIntentStore :=
  match link.ttl pendingJoinKey store user with
  | none => (false, store)
  | some ttl =>
    if ttl = 0 then (false, store)
    else (true, link.setex pendingJoinKey store user ttl intent.toDoc)

def clear : PendingJoinIntentStore := link.del pendingJoinKey store user

end PendingJoinIntentStore

/-- `"voice:resume_id:" + user`. -/
def resumeIdKey (user : UserId) : String := "voice:resume_id:" ++ user.value

def resumeIdTtl : Nat := 24 * 60 * 60

-- `VoiceResumeRegistry`: ids in memory, copied to Redis.
structure VoiceResumeRegistry where
  userResumeIds : Map UserId String := ∅
  stored : Store UserId String := ∅

namespace VoiceResumeRegistry

variable (link : Link) (r : VoiceResumeRegistry) (user : UserId)

-- `rotate`, given the nonce it draws.
def rotate (next : String) : VoiceResumeRegistry :=
  { userResumeIds := r.userResumeIds.insert user next
    stored := link.setex resumeIdKey r.stored user resumeIdTtl next }

def read : Option String := r.userResumeIds.lookup user

def loadFromStorage : Option String × VoiceResumeRegistry :=
  match link.get resumeIdKey r.stored user with
  | none => (none, r)
  | some stored =>
    if stored = "" then (none, r)
    else (some stored, { r with userResumeIds := r.userResumeIds.insert user stored })

def clear : VoiceResumeRegistry :=
  { userResumeIds := r.userResumeIds.erase user
    stored := link.del resumeIdKey r.stored user }

def clearAll : VoiceResumeRegistry := { r with userResumeIds := ∅ }

end VoiceResumeRegistry

end Kergit
