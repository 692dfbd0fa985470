import Kergit.Lib.Staged
import Kergit.Ids
import Mathlib.Logic.Function.Basic

/-!
Resuming a voice session, with several calls at once.

`try_resume_voice_ownership` checks the resume id in one structure, passes the seat on in
another by compare-and-set, and then rotates the id.  Between the last two steps the old id
is still there for a call that has read the new owner.

- `resume_once`: at most one call succeeds, if nobody reads the id between these two steps.
-/

namespace Kergit

open Lib

/-- The arguments of a call; the user and the resume id are those of every call. -/
structure ResumeRequest where
  channel : ChannelId
  hub : HubId
  nextOwner : Nat

/-- Where a call is: before each of its steps, and at its end. -/
inductive ResumeCall where
  | begun
  | placed
  | checked
  | owned (owner : Nat)
  | matched (owner : Nat)
  | moved
  | done (resumeId : Option String)
deriving DecidableEq

/-- The call has passed the seat on. -/
def ResumeCall.won : ResumeCall → Bool
  | moved | done (some _) => true
  | _ => false

/-- The user's seat, the user's resume id, and the calls. -/
structure ResumeState (n : Nat) where
  seat : Option (ChannelId × Nat)
  resumeId : Option String
  calls : Fin n → ResumeCall := fun _ => .begun

/-- What a step finds outside: the hub of the channel, and the id that is drawn. -/
structure ResumeEnv where
  hubOf : Option HubId := none
  nonce : String := ""

namespace ResumeState

variable {n : Nat} (asked : Fin n → ResumeRequest) (presented : String) (s : ResumeState n)

def goto (call : Fin n) (next : ResumeCall) : ResumeState n :=
  { s with calls := Function.update s.calls call next }

def step (turn : Fin n × ResumeEnv) : ResumeState n :=
  let request := asked turn.1
  match s.calls turn.1 with
  | .begun =>
    s.goto turn.1 (if presented ≠ "" ∧ s.seat.map Prod.fst = some request.channel then .placed
      else .done none)
  | .placed => s.goto turn.1 (if turn.2.hubOf = some request.hub then .checked else .done none)
  | .checked =>
    s.goto turn.1 (match s.seat with
      | some (_, owner) => if owner = request.nextOwner then .done none else .owned owner
      | none => .done none)
  | .owned owner =>
    s.goto turn.1 (if s.resumeId = some presented then .matched owner else .done none)
  | .matched expected =>
    if s.seat.map Prod.snd = some expected then
      { s with seat := s.seat.map (Prod.map id fun _ => request.nextOwner) }.goto turn.1 .moved
    else s.goto turn.1 (.done none)
  | .moved =>
    { s with resumeId := some turn.2.nonce }.goto turn.1 (.done (some turn.2.nonce))
  | .done _ => s

/-- Nobody reads the id between another call's transfer and its rotation, and an id that is
drawn is another one. -/
def Apart (s : ResumeState n) (turn : Fin n × ResumeEnv) : Prop :=
  match s.calls turn.1 with
  | .owned _ => ∀ other, s.calls other ≠ .moved
  | .moved => turn.2.nonce ≠ presented
  | _ => True

instance (turn : Fin n × ResumeEnv) : Decidable (Apart presented s turn) := by
  unfold Apart
  cases s.calls turn.1 <;> infer_instance

/-- Until a call has won, the owner is the first and so is every owner read; from then on the
seat is another's, and once the id is rotated it is not the one presented. -/
structure Inv (first : Nat) (winner : Option (Fin n)) : Prop where
  won : ∀ call, (s.calls call).won = true ↔ winner = some call
  seated : ∀ channel owner, s.seat = some (channel, owner) → (owner = first ↔ winner = none)
  owned : ∀ call owner, s.calls call = .owned owner →
    owner ≠ (asked call).nextOwner ∧ (winner = none → owner = first)
  matched : ∀ call owner, s.calls call = .matched owner →
    owner ≠ (asked call).nextOwner ∧ owner = first
  rotated : ∀ call id, s.calls call = .done (some id) → s.resumeId = some id ∧ id ≠ presented

variable {asked presented s} {first : Nat} {winner : Option (Fin n)}

/-- While the id is the one presented and nobody is about to rotate it, nobody has won. -/
theorem Inv.unrotated (inv : s.Inv asked presented first winner)
    (same : s.resumeId = some presented) (none : ∀ other, s.calls other ≠ .moved) :
    winner = Option.none := by
  cases is : winner with
  | none => rfl
  | some call =>
    have won := (inv.won call).mpr is
    unfold ResumeCall.won at won
    split at won
    · rename_i moved
      exact absurd moved (none call)
    · rename_i id rotated
      obtain ⟨now, other⟩ := inv.rotated call id rotated
      exact absurd (Option.some.inj (now.symm.trans same)) other
    · nomatch won

theorem Inv.step (inv : s.Inv asked presented first winner) (turn : Fin n × ResumeEnv)
    (apart : Apart presented s turn) :
    ∃ winner, (s.step asked presented turn).Inv asked presented first winner := by
  have unrotated := inv.unrotated
  obtain ⟨won, seated, owned, matched, rotated⟩ := inv
  obtain ⟨call, env⟩ := turn
  unfold ResumeState.step Apart at *
  cases is : s.calls call
  case matched expected =>
    -- A transfer that goes through makes the call the winner.
    by_cases transfers : s.seat.map Prod.snd = some expected
    · obtain ⟨⟨channel, owner⟩, seat, rfl⟩ := Option.map_eq_some_iff.mp transfers
      refine ⟨some call, ?_⟩
      simp [seat]
      constructor <;> simp [goto] <;> grind [ResumeCall.won]
    · refine ⟨winner, ?_⟩
      simp only [if_neg transfers]
      constructor <;> simp [goto] <;> grind [ResumeCall.won]
  all_goals
    refine ⟨winner, ?_⟩
    constructor <;> simp [goto] <;> grind [ResumeCall.won]

/-- **At most one call succeeds, and its id is the user's**, if nobody reads the id between a
transfer and its rotation. -/
theorem resume_once {seat : Option (ChannelId × Nat)} {resumeId : Option String}
    {turns : List (Fin n × ResumeEnv)}
    (apart : Staged (step asked presented) (Apart presented) ⟨seat, resumeId, fun _ => .begun⟩ turns) :
    let s := run (step asked presented) ⟨seat, resumeId, fun _ => .begun⟩ turns
    (∀ call other id id', s.calls call = .done (some id) → s.calls other = .done (some id') →
      call = other) ∧ ∀ call id, s.calls call = .done (some id) → s.resumeId = some id := by
  obtain ⟨winner, inv⟩ := apart.invariant
    (fun s => ∃ winner, s.Inv asked presented ((seat.map Prod.snd).getD 0) winner)
    (fun s turn ⟨winner, inv⟩ => inv.step turn)
    ⟨none, by constructor <;> simp_all [ResumeCall.won]⟩
  refine ⟨fun call other id id' one two => ?_, fun call id is => (inv.rotated call id is).1⟩
  have first := (inv.won call).mp (by rw [one]; rfl)
  have second := (inv.won other).mp (by rw [two]; rfl)
  exact Option.some.inj (first.symm.trans second)

end ResumeState

/-! ## Two calls at once -/

namespace Resumed

open ResumeState

/-- Two calls that want the seat of session 1, each for its own session. -/
def asked (call : Fin 2) : ResumeRequest := ⟨⟨"c"⟩, ⟨"h"⟩, call + 2⟩

def turns (call : Fin 2) (n : Nat) : List (Fin 2 × ResumeEnv) :=
  List.replicate n (call, ⟨some ⟨"h"⟩, if call = 0 then "a" else "b"⟩)

def start : ResumeState 2 := ⟨some (⟨"c"⟩, 1), some "r", fun _ => .begun⟩

/-- The first call has passed the seat on and not yet rotated the id; the second succeeds too. -/
theorem both_resume :
    let s := run (step asked "r") start (turns 0 5 ++ turns 1 6 ++ turns 0 1)
    s.calls 0 = .done (some "a") ∧ s.calls 1 = .done (some "b") := by
  decide

/-- Both have read the owner and the id; one comes through. -/
def raced : List (Fin 2 × ResumeEnv) := turns 0 4 ++ turns 1 4 ++ turns 0 2 ++ turns 1 1

theorem resume_once_raced : (run (step asked "r") start raced).calls 1 = .done none ∧
    (run (step asked "r") start raced).resumeId = some "a" := by
  have apart : Staged (step asked "r") (Apart "r") start raced := by decide
  exact ⟨by decide, (resume_once apart).2 0 "a" (by decide)⟩

end Resumed

end Kergit
