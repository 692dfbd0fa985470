import Kergit.Ids
import Kergit.TransactionRunner

/-!
`CreateHub` and `CreateChannel` under `READ COMMITTED`: the triggers that limit the hubs of an owner
and the channels of a hub count the rows that are committed, and every transaction inserts one.
-/

namespace Kergit

open Lib

/-- A row, by what its limit counts. -/
inductive LimitedRow where
  | hub (owner : UserId)
  | channel (hub : HubId)
deriving DecidableEq, Repr

def LimitedRow.limit : LimitedRow → Nat
  | .hub _ => 2
  | .channel _ => 3

def maxChannelsPerHub : Nat := 3

/-- A command is about to insert a row, or to commit it. -/
inductive CreateStage where
  | inserting (row : LimitedRow)
  | inserted (row : LimitedRow)
deriving DecidableEq, Repr

/-- The committed rows, and the commands that are on their way. -/
structure Creations where
  rows : List LimitedRow := []
  calls : Map Nat CreateStage := ∅

/-- A command begins, `CreateChannel` with the number of channels in the cache; or it takes its
next step, which may throw and gives a new hub its id. -/
inductive CreateInput where
  | createHub (call : Nat) (owner : UserId)
  | createChannel (call : Nat) (hub : HubId) (cached : Nat)
  | next (call : Nat) (hub : HubId) (ends : WriteEnd)

namespace Creations

variable (s : Creations) (call : Nat)

def goOn (stage : CreateStage) : Creations := { s with calls := s.calls.insert call stage }

def leave : Creations := { s with calls := s.calls.erase call }

-- `CreateHubCommand::execute`, `CreateChannelCommand::execute`, from the insert on: a hub
-- that is committed gets its first channel.
def advance (hub : HubId) (ends : WriteEnd) : CreateStage → Creations
  | .inserting row =>
    if ends = .returned ∧ s.rows.count row < row.limit then s.goOn call (.inserted row)
    else s.leave call
  | .inserted row =>
    let committed := { s with rows := row :: s.rows }
    match ends, row with
    | .refused, _ => s.leave call
    | .returned, .hub _ => committed.goOn call (.inserting (.channel hub))
    | _, _ => committed.leave call

def enter (stage : CreateStage) : Creations := if call ∈ s.calls then s else s.goOn call stage

def step : CreateInput → Creations
  | .createHub call owner => s.enter call (.inserting (.hub owner))
  | .createChannel call hub cached =>
    if maxChannelsPerHub ≤ cached then s else s.enter call (.inserting (.channel hub))
  | .next call hub ends => (s.calls.lookup call).elim s (s.advance call hub ends)

/-- A row is inserted while no other one that its limit counts waits for its commit. -/
def Apart (s : Creations) : CreateInput → Prop
  | .next call _ _ =>
    match s.calls.lookup call with
    | some (.inserting row) => ∀ other ∈ s.calls.keys, s.calls.lookup other ≠ some (.inserted row)
    | _ => True
  | _ => True

instance (s : Creations) (input : CreateInput) : Decidable (s.Apart input) := by
  unfold Apart
  split
  · split <;> infer_instance
  · infer_instance

/-- The limits hold, with the rows that wait for their commit. -/
structure Limited : Prop where
  committed : ∀ row, s.rows.count row ≤ row.limit
  waiting : ∀ call row, s.calls.lookup call = some (.inserted row) → s.rows.count row < row.limit
  alone : ∀ call other row, s.calls.lookup call = some (.inserted row) →
    s.calls.lookup other = some (.inserted row) → call = other

variable {s call}

section

variable (limited : s.Limited)

include limited

/-- A command goes on to a stage that has no row to commit, or returns. -/
theorem Limited.move {calls : Map Nat CreateStage}
    (fewer : ∀ call row, calls.lookup call = some (.inserted row) →
      s.calls.lookup call = some (.inserted row)) :
    Limited { s with calls } where
  committed := limited.committed
  waiting call row found := limited.waiting call row (fewer call row found)
  alone call other row found found' :=
    limited.alone call other row (fewer call row found) (fewer other row found')

/-- A row that waited is committed. -/
theorem Limited.commit (found : s.calls.lookup call = some (.inserted row))
    {calls : Map Nat CreateStage}
    (fewer : ∀ other row, calls.lookup other = some (.inserted row) →
      other ≠ call ∧ s.calls.lookup other = some (.inserted row)) :
    Limited { rows := row :: s.rows, calls } where
  committed other := by
    have := limited.waiting call row found
    grind [limited.committed other]
  waiting other row' held := by
    have below := limited.waiting other row' (fewer other row' held).2
    have := limited.alone call other row found
    grind
  alone a b row' held held' := limited.alone a b row' (fewer a row' held).2 (fewer b row' held').2

theorem Limited.advance {stage : CreateStage} (found : s.calls.lookup call = some stage)
    (apart : ∀ row, stage = .inserting row → ∀ other, s.calls.lookup other ≠ some (.inserted row))
    (hub : HubId) (ends : WriteEnd) : (s.advance call hub ends stage).Limited := by
  have leave : (s.leave call).Limited := limited.move (by grind)
  cases stage with
  | inserting row =>
    rw [Creations.advance]
    split
    · refine ⟨limited.committed, fun other row' held => ?_, fun a b row' held held' => ?_⟩
      · have := limited.waiting other row'
        grind [goOn]
      · have := limited.alone a b row'
        grind [goOn]
    · exact leave
  | inserted row =>
    unfold Creations.advance
    dsimp only
    split
    · exact leave
    · exact limited.commit found (by grind)
    · exact limited.commit found (by grind)

theorem Limited.enter (row : LimitedRow) : (s.enter call (.inserting row)).Limited := by
  rw [Creations.enter]
  split
  · exact limited
  · exact limited.move (by grind)

theorem Limited.step (input : CreateInput) (apart : s.Apart input) : (s.step input).Limited := by
  cases input with
  | createHub call owner => exact limited.enter _
  | createChannel call hub cached =>
    rw [Creations.step]
    split
    · exact limited
    · exact limited.enter _
  | next call hub ends =>
    rw [Creations.step]
    cases found : s.calls.lookup call with
    | none => exact limited
    | some stage =>
      refine limited.advance found ?_ hub ends
      rintro row rfl other held
      rw [Apart, found] at apart
      exact apart other (AList.mem_keys.mp ((Map.mem_iff_lookup _ _).mpr ⟨_, held⟩)) held

end

/-- **No owner has more than two hubs and no hub more than three channels**, if no row is inserted
while another one of the same owner or hub waits for its commit. -/
theorem limits_hold {inputs : List CreateInput} (apart : Staged step Apart {} inputs) :
    (∀ owner, (run step {} inputs).rows.count (.hub owner) ≤ 2) ∧
      ∀ hub, (run step {} inputs).rows.count (.channel hub) ≤ 3 := by
  have limited := apart.invariant Limited (fun _ input limited => limited.step input)
    ⟨by simp, by simp, by simp⟩
  exact ⟨fun owner => limited.committed (.hub owner), fun hub => limited.committed (.channel hub)⟩

end Creations

namespace Crowded

open Creations

def hub : HubId := ⟨"hub"⟩

/-- Two channels more are inserted, and then committed. -/
def together : List CreateInput :=
  [.createHub 1 ⟨"ada"⟩, .next 1 hub .returned, .next 1 hub .returned, .next 1 hub .returned,
    .next 1 hub .returned, .createChannel 2 hub 1, .next 2 hub .returned, .next 2 hub .returned,
    .createChannel 3 hub 2, .createChannel 4 hub 2, .next 3 hub .returned, .next 4 hub .returned,
    .next 3 hub .returned, .next 4 hub .returned]

theorem four_channels : (run step {} together).rows.count (.channel hub) = 4 := by
  decide

/-- The same, one after the other. -/
def inTurn : List CreateInput :=
  together.take 8 ++ [.createChannel 3 hub 2, .next 3 hub .returned, .next 3 hub .returned,
    .createChannel 4 hub 2, .next 4 hub .returned, .next 4 hub .returned]

theorem limits_hold_in_turn : (run step {} inTurn).rows.count (.channel hub) ≤ 3 :=
  (limits_hold (by decide)).2 hub

end Crowded

end Kergit
