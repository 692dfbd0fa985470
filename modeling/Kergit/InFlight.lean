import Mathlib.Logic.Function.Basic
import Kergit.Lib.Staged
import Kergit.Lib.Maps
import Kergit.Ids

/-!
`WorkerPool`'s guard against duplicates in flight, under any number of worker threads.

The catch blocks of `worker_loop` unmark a command whether or not it was marked.  Only a handler
throws, and a guarded handler runs behind its own mark, so what they unmark is the command's own
entry or none: `Inv` has the table name the guarded commands that run, each once.
-/

namespace Kergit.WorkerPool

open Lib

/-- A worker takes an event, whose payload may not parse; its handler returns or throws. -/
inductive Input (T : Type) where
  | take (worker : Nat) (conn : GlobalConnId) (type : T) (parses : Bool)
  | returns (worker : Nat)
  | throws (worker : Nat)

/-- The table `executing_commands_`, and the command whose handler each worker runs. -/
structure Guard (T : Type) where
  executing : Map GlobalConnId (List T) := ∅
  running : Nat → Option (GlobalConnId × T) := fun _ => none

namespace Guard

-- `T` is the type of an envelope, `dedup` is `command_uses_inflight_dedup`.
variable {T : Type} (dedup : T → Bool) (s : Guard T)

/-- An entry of the table. -/
def Holds (conn : GlobalConnId) (type : T) : Prop := type ∈ Map.row s.executing conn

def goto (worker : Nat) (command : Option (GlobalConnId × T)) : Guard T :=
  { s with running := Function.update s.running worker command }

structure Inv : Prop where
  listed : ∀ conn type, s.Holds conn type ↔
    dedup type = true ∧ ∃ worker, s.running worker = some (conn, type)
  alone : ∀ w w' conn type, dedup type = true → s.running w = some (conn, type) →
    s.running w' = some (conn, type) → w = w'
  once : ∀ conn, (Map.row s.executing conn).Nodup
  full : Map.NoEmptyLists s.executing

variable {dedup s} {worker : Nat} {conn : GlobalConnId} {type : T}

theorem running_goto (command : Option (GlobalConnId × T)) (other : Nat) :
    (s.goto worker command).running other =
      if other = worker then command else s.running other := by
  simp only [goto, Function.update_apply]

/-- A worker that starts or ends an unguarded command. -/
theorem Inv.unguarded (inv : s.Inv dedup)
    (before : ∀ conn type, s.running worker = some (conn, type) → dedup type = false)
    (after : ∀ conn type, command = some (conn, type) → dedup type = false) :
    (s.goto worker command).Inv dedup := by
  obtain ⟨listed, alone, once, full⟩ := inv
  constructor <;> simp only [goto, Holds, Function.update_apply] at listed ⊢
  case listed => grind
  case alone => grind
  case once => exact once
  case full => exact full

variable [DecidableEq T]

def unmarkExecuting (s : Guard T) (conn : GlobalConnId) (type : T) : Guard T :=
  { s with executing := Map.dropFrom s.executing conn type }

-- `handle_event` up to the dispatch, with `try_mark_executing`; its end; and the catch
-- blocks of `worker_loop`.
def step (dedup : T → Bool) (s : Guard T) : Input T → Guard T
  | .take worker conn type parses =>
    if s.running worker ≠ none ∨ parses = false then s
    else if dedup type then
      let set := Map.row s.executing conn
      if type ∈ set then s
      else { s with executing := s.executing.insert conn (type :: set) }.goto worker (some (conn, type))
    else s.goto worker (some (conn, type))
  | .returns worker =>
    match s.running worker with
    | none => s
    | some (conn, type) =>
      (if dedup type then s.unmarkExecuting conn type else s).goto worker none
  | .throws worker =>
    match s.running worker with
    | none => s
    | some (conn, type) => (s.unmarkExecuting conn type).goto worker none

/-- The end of a command that may have an entry. -/
theorem Inv.ends (inv : s.Inv dedup) (runs : s.running worker = some (conn, type)) :
    ((s.unmarkExecuting conn type).goto worker none).Inv dedup := by
  obtain ⟨listed, alone, once, full⟩ := inv
  constructor <;> simp only [goto, unmarkExecuting, Holds, Function.update_apply]
    at listed ⊢
  case listed => grind
  case alone => grind
  case once => grind
  case full => exact full.dropFrom conn type

theorem Inv.step (inv : s.Inv dedup) (input : Input T) : (s.step dedup input).Inv dedup := by
  cases input with
  | take worker conn type parses =>
    rw [Guard.step]
    split
    · exact inv
    · split
      · dsimp only
        split
        · exact inv
        · obtain ⟨listed, alone, once, full⟩ := inv
          constructor <;> simp only [goto, Holds, Function.update_apply] at listed ⊢
          case listed => grind
          case alone => grind
          case once => grind
          case full => exact full.insert (List.cons_ne_nil _ _)
      · exact inv.unguarded (by grind) (by grind)
  | returns worker =>
    rw [Guard.step]
    cases runs : s.running worker with
    | none => exact inv
    | some command =>
      dsimp only
      split
      · exact inv.ends runs
      · exact inv.unguarded (by grind) (by simp)
  | throws worker =>
    rw [Guard.step]
    cases runs : s.running worker with
    | none => exact inv
    | some command => exact inv.ends runs

theorem running_ends (ends : input = .returns worker ∨ input = .throws worker)
    (other : Nat) : (s.step dedup input).running other =
      if other = worker then none else s.running other := by
  rcases ends with rfl | rfl <;> grind [Guard.step, running_goto, unmarkExecuting]

/-- Only its own return or exception stops what a worker runs. -/
theorem running_step (runs : s.running worker = some (conn, type)) (input : Input T) :
    (s.step dedup input).running worker = some (conn, type) ∨
      input = .returns worker ∨ input = .throws worker := by
  cases input with
  | take w conn type parses => grind [Guard.step, running_goto]
  | returns w => grind [running_ends (.inl rfl)]
  | throws w => grind [running_ends (.inr rfl)]

/-- **In-flight exclusion.**  However the workers interleave and whichever handlers throw: of a
guarded type, one command runs per connection; the table has its entry as long as it runs and no
other; an entry goes by the end of its own command and by nothing else; and the table of an idle
pool is empty. -/
theorem in_flight_exclusive (inputs : List (Input T)) :
    let s : Guard T := run (Guard.step dedup) {} inputs
    (∀ w w' conn type, dedup type = true → s.running w = some (conn, type) →
      s.running w' = some (conn, type) → w = w') ∧
    (∀ conn type, s.Holds conn type ↔
      dedup type = true ∧ ∃ worker, s.running worker = some (conn, type)) ∧
    (∀ conn type input, s.Holds conn type → (¬ (s.step dedup input).Holds conn type ↔
      ∃ worker, s.running worker = some (conn, type) ∧
        (input = .returns worker ∨ input = .throws worker))) ∧
    ((∀ worker, s.running worker = none) → s.executing = ∅) := by
  intro s
  have inv : s.Inv dedup := by
    apply run_invariant (fun _ input inv => inv.step input)
    exact ⟨by simp [Holds], nofun, fun _ => List.nodup_nil, nofun⟩
  refine ⟨inv.alone, inv.listed, ?_, ?_⟩
  · intro conn type input holds
    obtain ⟨guarded, worker, runs⟩ := (inv.listed conn type).mp holds
    rw [(inv.step input).listed]
    constructor
    · intro gone
      rcases running_step runs input with next | ends
      · exact absurd ⟨guarded, worker, next⟩ gone
      · exact ⟨worker, runs, ends⟩
    · rintro ⟨w, mine, ends⟩ ⟨-, other, still⟩
      rw [running_ends ends] at still
      split at still
      · nomatch still
      · rename_i differ
        exact differ (inv.alone other w conn type guarded still mine)
  · intro idle
    apply Map.eq_empty_of_isEmpty
    rw [Map.isEmpty_iff]
    intro conn
    rw [AList.lookup_eq_none, Map.mem_iff_row _ inv.full]
    rintro ⟨type, listed⟩
    obtain ⟨-, worker, runs⟩ := (inv.listed conn type).mp listed
    nomatch (idle worker).symm.trans runs

end Guard

end Kergit.WorkerPool
