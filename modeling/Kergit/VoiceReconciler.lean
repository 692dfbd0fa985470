import Kergit.Lib.Maps
import Kergit.Ids

/-!
`ReconcileEvidenceTracker` and the requests of `VoiceReconciler`.

A LiveKit poll that misses a room or a participant is not believed at once.  The
first such poll files an observation, later ones leave it alone, and only a poll
at least `missing_ttl` after the first confirms it.  Everything that contradicts
the absence clears the observation, so a confirmation means the absence was seen
twice with nothing against it in between.
-/

namespace Kergit

open Lib

structure MissingObservation where
  firstSeen : Nat
  reason : String
deriving DecidableEq, Repr

structure ObservationResult where
  firstObservation : Bool
  confirmed : Bool
  firstReason : String
deriving DecidableEq, Repr

structure VoiceReconciler where
  missingTtl : Nat
  missingChannels : Map ChannelId MissingObservation := ∅
  missingParticipants : Map ChannelId (Map UserId MissingObservation) := ∅
  pendingChannels : List ChannelId := []

namespace VoiceReconciler

variable (r : VoiceReconciler) (channel : ChannelId) (user : UserId) (reason : String) (now : Nat)

/-- The result of meeting an observation that was filed before:
`now - first_seen >= missing_ttl` confirms it. -/
def revisit (seen : MissingObservation) : ObservationResult :=
  ⟨false, decide (seen.firstSeen + r.missingTtl ≤ now), seen.reason⟩

-- `observe_channel_missing`; a confirmation forgets the channel's
-- observations.
def observeChannelMissing : ObservationResult × VoiceReconciler :=
  match r.missingChannels.lookup channel with
  | none =>
    (⟨true, false, reason⟩,
      { r with missingChannels := r.missingChannels.insert channel ⟨now, reason⟩ })
  | some seen =>
    let result := r.revisit now seen
    (result,
      if result.confirmed then
        { r with
          missingChannels := r.missingChannels.erase channel
          missingParticipants := r.missingParticipants.erase channel }
      else r)

/-- The filed observation of a missing participant. -/
def participantSeen : Option MissingObservation :=
  (Map.inner r.missingParticipants channel).lookup user

def observeParticipantMissing : ObservationResult × VoiceReconciler :=
  match r.participantSeen channel user with
  | none =>
    (⟨true, false, reason⟩,
      { r with
        missingParticipants := r.missingParticipants.insert channel
          ((Map.inner r.missingParticipants channel).insert user ⟨now, reason⟩) })
  | some seen =>
    let result := r.revisit now seen
    (result,
      if result.confirmed then
        { r with
          missingParticipants := Map.setInner r.missingParticipants channel
            ((Map.inner r.missingParticipants channel).erase user) }
      else r)

def clearChannelMissing : VoiceReconciler :=
  { r with missingChannels := r.missingChannels.erase channel }

def clearParticipantMissing : VoiceReconciler :=
  { r with
    missingParticipants := Map.setInner r.missingParticipants channel
      ((Map.inner r.missingParticipants channel).erase user) }

def resetChannel : VoiceReconciler :=
  { r with
    missingChannels := r.missingChannels.erase channel
    missingParticipants := r.missingParticipants.erase channel }

def request : VoiceReconciler :=
  if channel.value = "" then r else { r with pendingChannels := r.pendingChannels.insert channel }

end VoiceReconciler

end Kergit
