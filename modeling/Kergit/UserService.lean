import Kergit.TransactionRunner

/-!
`UserService` over one user: the row in the database, the entry of the cache, and the calls that
are on their way.  A reader puts what it fetched and a writer what it wrote, so a call that is slow
between its two steps puts a row that another one has changed since.
-/

namespace Kergit

open Lib

-- `User`, without its id.
structure Profile where
  userName : String
  displayName : String
  avatarSeed : String
deriving DecidableEq, Repr

/-- The columns that are written. -/
structure ProfileUpdate where
  userName : Option String := none
  displayName : Option String := none
  avatarSeed : Option String := none
deriving DecidableEq, Repr

def ProfileUpdate.apply (update : ProfileUpdate) (profile : Profile) : Profile where
  userName := update.userName.getD profile.userName
  displayName := update.displayName.getD profile.displayName
  avatarSeed := update.avatarSeed.getD profile.avatarSeed

/-- What a call does next: look into the cache, read the row, put it, write the row, or put what
the write returned (`none` invalidates). -/
inductive UserStage where
  | asked
  | missed
  | fetched (row : Option Profile)
  | updating (update : ProfileUpdate)
  | updated (row : Option Profile)

/-- The call has read or written the row. -/
def UserStage.holding : UserStage → Bool
  | .fetched _ | .updated _ => true
  | _ => false

def UserStage.writes : UserStage → Bool
  | .updating _ => true
  | _ => false

structure UserService where
  stored : Option Profile
  cached : Option Profile := none
  calls : Map Nat UserStage := ∅

inductive UserInput where
  | getUser (call : Nat)
  | updateProfile (call : Nat) (update : ProfileUpdate)
  | next (call : Nat) (ends : WriteEnd)

namespace UserService

variable (s : UserService) (call : Nat)

def goOn (stage : UserStage) : UserService := { s with calls := s.calls.insert call stage }

/-- The call puts the row or invalidates the entry, and returns. -/
def settle (cached : Option Profile) : UserService :=
  { s with cached, calls := s.calls.erase call }

def advance (ends : WriteEnd) : UserStage → UserService
  | .asked => if s.cached.isSome then s.settle call s.cached else s.goOn call .missed
  | .missed =>
    -- an exception of the read is the caller's
    if ends = .returned then s.goOn call (.fetched s.stored) else s.settle call s.cached
  | .fetched row => s.settle call (row.or s.cached)
  | .updating update =>
    let written := s.stored.map update.apply
    match ends with
    | .returned => { s with stored := written }.goOn call (.updated written)
    | .refused => s.goOn call (.updated none)
    | .inDoubt => { s with stored := written }.goOn call (.updated none)
  | .updated row => s.settle call row

/-- A new call. -/
def enter (stage : UserStage) : UserService := if call ∈ s.calls then s else s.goOn call stage

def step : UserInput → UserService
  | .getUser call => s.enter call .asked
  | .updateProfile call update => s.enter call (.updating update)
  | .next call ends => (s.calls.lookup call).elim s (s.advance call ends)

/-- A row is written while no other call holds it. -/
def Undisturbed (s : UserService) : UserInput → Prop
  | .next call _ => (s.calls.lookup call).any UserStage.writes = true →
    ∀ other ∈ s.calls.keys, (s.calls.lookup other).any UserStage.holding = false
  | _ => True

instance (s : UserService) (input : UserInput) : Decidable (s.Undisturbed input) := by
  cases input <;> unfold Undisturbed <;> infer_instance

/-- A writer is about to put its row or to invalidate the entry. -/
def Writing (s : UserService) (call : Nat) : Prop :=
  ∃ row, s.calls.lookup call = some (.updated row)

/-- What is held is stored, and so is what is cached, unless a writer is about to see to that. -/
structure Coherent : Prop where
  held : ∀ call row, s.calls.lookup call = some (.fetched (some row)) ∨
    s.calls.lookup call = some (.updated (some row)) → s.stored = some row
  cached : (∃ call, s.Writing call) ∨ s.cached = none ∨ s.cached = s.stored

variable {s call}

section

variable (coherent : s.Coherent)

include coherent

/-- A call that is not a writer goes on, with nothing or with what is stored. -/
theorem Coherent.goOn (reader : ¬ s.Writing call)
    (holds : ∀ row, stage = .fetched (some row) ∨ stage = .updated (some row) →
      s.stored = some row) :
    (s.goOn call stage).Coherent where
  held := by grind [UserService.goOn, coherent.held]
  cached := by
    refine coherent.cached.imp_left fun ⟨writer, row, found⟩ => ⟨writer, row, ?_⟩
    grind [UserService.goOn, Writing]

/-- A reader that changes nothing returns, or a call leaves what is stored or nothing. -/
theorem Coherent.settle {cached : Option Profile}
    (right : ¬ s.Writing call ∧ cached = s.cached ∨ cached = none ∨ cached = s.stored) :
    (s.settle call cached).Coherent where
  held := by grind [UserService.settle, coherent.held]
  cached := by
    rcases right with ⟨reader, rfl⟩ | right
    · refine coherent.cached.imp_left fun ⟨writer, row, found⟩ => ⟨writer, row, ?_⟩
      grind [UserService.settle, Writing]
    · exact .inr right

theorem Coherent.advance (found : s.calls.lookup call = some stage)
    (undisturbed : stage.writes = true →
      ∀ other stage, s.calls.lookup other = some stage → stage.holding = false)
    (ends : WriteEnd) : (s.advance call ends stage).Coherent := by
  have reader : ¬ s.Writing call ∨ ∃ row, stage = .updated row := by grind [Writing]
  cases stage with
  | asked =>
    rw [UserService.advance]
    split
    · exact coherent.settle (by grind)
    · exact coherent.goOn (by grind) (by grind)
  | missed =>
    rw [UserService.advance]
    split
    · exact coherent.goOn (by grind) (by grind)
    · exact coherent.settle (by grind)
  | fetched row =>
    refine coherent.settle ?_
    cases row with
    | none => grind
    | some row => exact .inr (.inr (coherent.held call row (.inl found)).symm)
  | updating update =>
    have nobody := undisturbed rfl
    have written (row : Option Profile) (right : row = none ∨ row = s.stored.map update.apply) :
        ({ s with stored := s.stored.map update.apply }.goOn call (.updated row)).Coherent := by
      refine ⟨?_, .inl ⟨call, row, by grind [UserService.goOn]⟩⟩
      grind [UserService.goOn, UserStage.holding]
    cases ends with
    | returned => exact written _ (.inr rfl)
    | refused => exact coherent.goOn (by grind) (by grind)
    | inDoubt => exact written none (.inl rfl)
  | updated row =>
    refine coherent.settle (.inr ?_)
    cases row with
    | none => exact .inl rfl
    | some row => exact .inr (coherent.held call row (.inr found)).symm

theorem Coherent.enter (free : ∀ row, stage ≠ .fetched row ∧ stage ≠ .updated row) :
    (s.enter call stage).Coherent := by
  rw [UserService.enter]
  split
  · exact coherent
  · exact coherent.goOn (by grind [Writing, Map.mem_iff_lookup]) (by grind)

theorem Coherent.step (input : UserInput) (undisturbed : s.Undisturbed input) :
    (s.step input).Coherent := by
  cases input with
  | getUser call | updateProfile call update => exact coherent.enter (by simp)
  | next call ends =>
    rw [UserService.step]
    cases found : s.calls.lookup call with
    | none => exact coherent
    | some stage =>
      refine coherent.advance found (fun writes other stage held => ?_) ends
      rw [Undisturbed, found] at undisturbed
      have := undisturbed writes other (AList.mem_keys.mp ((Map.mem_iff_lookup _ _).mpr ⟨_, held⟩))
      rwa [held] at this

end

/-- **When every call has returned, the cache holds what the database does**, if no row is written
while another call holds it. -/
theorem cached_is_stored {start : UserService} {inputs : List UserInput} (coherent : start.Coherent)
    (undisturbed : Staged step Undisturbed start inputs)
    (returned : (run step start inputs).calls.keys = []) :
    ∀ profile ∈ (run step start inputs).cached, (run step start inputs).stored = some profile := by
  have := undisturbed.invariant Coherent (fun _ input coherent => coherent.step input) coherent
  obtain ⟨-, ⟨call, row, writing⟩ | empty | same⟩ := this
  · have listed := AList.mem_keys.mp ((Map.mem_iff_lookup _ _).mpr ⟨_, writing⟩)
    simp [returned] at listed
  · simp [empty]
  · exact fun profile cached => same ▸ cached

end UserService

namespace Renamed

open UserService

def ada : Profile := ⟨"ada", "Ada", "seed"⟩

def start : UserService := { stored := some ada }

def update : ProfileUpdate := { displayName := some "Countess" }

/-- A reader has fetched the row; it is written and put; the reader puts the old one. -/
def overtaken : List UserInput :=
  [.getUser 1, .next 1 .returned, .next 1 .returned, .updateProfile 2 update, .next 2 .returned,
    .next 2 .returned, .next 1 .returned]

theorem old_profile_is_cached : (run step start overtaken).calls.keys = [] ∧
    (run step start overtaken).cached = some ada ∧
    (run step start overtaken).stored = some { ada with displayName := "Countess" } := by
  decide

/-- The reader puts its row first. -/
def inTurn : List UserInput :=
  [.getUser 1, .next 1 .returned, .next 1 .returned, .next 1 .returned, .updateProfile 2 update,
    .next 2 .returned, .next 2 .returned]

theorem cached_is_stored_in_turn :
    (run step start inTurn).stored = some { ada with displayName := "Countess" } :=
  cached_is_stored (show start.Coherent from ⟨by simp [start], by simp [start]⟩) (by decide)
    (by decide) _ (by decide)

end Renamed

end Kergit
