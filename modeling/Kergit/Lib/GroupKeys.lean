import Mathlib.Data.Set.Insert
import Mathlib.Logic.Relation

/-!
A group that shares a key, as a ledger of who was handed what.

Members come and go; the group has a current key or none; keys are handed to
members, and to outsiders who have asked to come in (`Issue`).  A `Turn` is one
change the group makes by itself: rekey whoever is left, close when nobody is,
hand the current key over, let somebody land.  What makes a landing acceptable
(`lands`), and whether members may slip out unnoticed or a closed group may adopt
a key of unknown origin (`loose`), are parameters, because the two results need
different answers.

- `Agrees`: every member was last handed the current key.  `Turn.agrees` keeps it
  in a loose group, as long as nobody lands without a current key.
- `Dead`: a used key that is neither current nor any member's last.  In a tight
  group, `Turn.dead` keeps a dead key dead, and `Turn.chain_dead` says that all a
  member was ever handed is dead once the member is gone.
- `Step` packs turns and an issue into what one step of a program does.
-/

namespace Kergit.Lib

structure Ledger (U K : Type*) where
  current : Option K
  members : Set U
  last : U → Option K
  handed : U → Set K
  /-- Every key drawn so far. -/
  used : Set K

namespace Ledger

variable {U K : Type*} {l l' : Ledger U K} {users : Set U} {u v : U} {k : K} {key : Option K}
  {lands : Ledger U K → U → Prop} {loose : Prop}

/-- From `l` to `l'`, exactly `users` were handed `key`. -/
structure Given (l l' : Ledger U K) (users : Set U) (key : Option K) : Prop where
  inside : ∀ u ∈ users, l'.last u = key.or (l.last u)
  outside : ∀ u ∉ users, l'.last u = l.last u
  handed : ∀ u, ∀ k ∈ l'.handed u, k ∈ l.handed u ∨ (u ∈ users ∧ key = some k)
  used : l.used ⊆ l'.used

/-- One change the group makes by itself. -/
inductive Turn (lands : Ledger U K → U → Prop) (loose : Prop) (l l' : Ledger U K) : Prop where
  | idle (current : l'.current = l.current) (members : l'.members = l.members)
      (given : Given l l' ∅ none)
  | hand (u : U) (member : u ∈ l.members) (current : l'.current = l.current)
      (members : l'.members = l.members) (given : Given l l' {u} l.current)
  | rekey (k : K) (shrinks : l'.members ⊆ l.members) (fresh : k ∉ l.used) (drawn : k ∈ l'.used)
      (current : l'.current = some k) (given : Given l l' l'.members (some k))
  | close (empty : l'.members = ∅) (current : l'.current = none) (given : Given l l' ∅ none)
  | land (u : U) (allowed : lands l u) (current : l'.current = l.current)
      (members : l'.members = insert u l.members) (given : Given l l' {u} l.current)
  | slip (allowed : loose) (shrinks : l'.members ⊆ l.members) (current : l'.current = l.current)
      (given : Given l l' ∅ none)
  | adopt (allowed : loose) (empty : l'.members = ∅) (given : Given l l' ∅ none)

/-- The current key goes to somebody who asks to come in. -/
structure Issue (l l' : Ledger U K) (u : U) (k : K) : Prop where
  current : l.current = some k
  same : l'.current = l.current
  members : l'.members = l.members
  given : Given l l' {u} (some k)

/-! ## One key for all members -/

/-- Every member was last handed the current key. -/
def Agrees (l : Ledger U K) : Prop := ∀ u ∈ l.members, ∃ k, l.current = some k ∧ l.last u = some k

theorem Given.nobody (given : Given l l' ∅ key) (u : U) : l'.last u = l.last u :=
  given.outside u (Set.notMem_empty u)

/-- Handing the current key to anybody leaves the others in agreement. -/
private theorem agrees_hand (agrees : Agrees l) (given : Given l l' {v} l.current)
    (current : l'.current = l.current) (member : u ∈ l.members) :
    ∃ k, l'.current = some k ∧ l'.last u = some k := by
  obtain ⟨k, now, held⟩ := agrees u member
  refine ⟨k, current.trans now, ?_⟩
  by_cases same : u ∈ ({v} : Set U)
  · rw [given.inside u same, now]
    rfl
  · rw [given.outside u same, held]

/-- A change that hands out nothing keeps a member who stays in agreement. -/
private theorem agrees_quiet (agrees : Agrees l) (given : Given l l' ∅ none)
    (current : l'.current = l.current) (member : u ∈ l.members) :
    ∃ k, l'.current = some k ∧ l'.last u = some k := by
  obtain ⟨k, now, held⟩ := agrees u member
  exact ⟨k, current.trans now, (given.nobody u).trans held⟩

/-- **Agreement is kept** by every turn that lets nobody land without a key. -/
theorem Turn.agrees (turn : Turn (fun l _ => l.current ≠ none) loose l l') (agrees : Agrees l) :
    Agrees l' := by
  intro u member
  cases turn with
  | idle current members given => exact agrees_quiet agrees given current (members ▸ member)
  | hand v _ current members given => exact agrees_hand agrees given current (members ▸ member)
  | rekey k shrinks fresh drawn current given => exact ⟨k, current, given.inside u member⟩
  | close empty current given =>
    rw [empty] at member
    exact absurd member (Set.notMem_empty u)
  | land v keyed current members given =>
    rw [members] at member
    rcases member with rfl | before
    · obtain ⟨k, now⟩ := Option.ne_none_iff_exists'.mp keyed
      exact ⟨k, current.trans now, by rw [given.inside u rfl, now]; rfl⟩
    · exact agrees_hand agrees given current before
  | slip _ shrinks current given => exact agrees_quiet agrees given current (shrinks member)
  | adopt _ empty given =>
    rw [empty] at member
    exact absurd member (Set.notMem_empty u)

theorem Issue.agrees (issue : Issue l l' v k) (agrees : Agrees l) : Agrees l' := by
  intro u member
  have given : Given l l' {v} l.current := issue.current ▸ issue.given
  exact agrees_hand agrees given issue.same (issue.members ▸ member)

/-! ## Keys that are gone for good -/

/-- Keys come from draws only. -/
structure Tidy (l : Ledger U K) : Prop where
  handed : ∀ u, l.handed u ⊆ l.used
  current : ∀ k, l.current = some k → k ∈ l.used

/-- Used once, and now neither current nor the last key of a member. -/
structure Dead (l : Ledger U K) (k : K) : Prop where
  used : k ∈ l.used
  notCurrent : l.current ≠ some k
  notLast : ∀ u ∈ l.members, l.last u ≠ some k

/-- A landing of somebody who was handed a key finds a current one. -/
def LandsKeyed (l : Ledger U K) (u : U) : Prop := l.last u ≠ none → l.current ≠ none

private theorem tidy_given (tidy : Tidy l) (given : Given l l' users key)
    (source : ∀ k, key = some k → k ∈ l'.used) (u : U) : l'.handed u ⊆ l'.used := by
  intro k handed
  rcases given.handed u k handed with before | ⟨-, now⟩
  · exact given.used (tidy.handed u before)
  · exact source k now

theorem Turn.tidy (turn : Turn lands False l l') (tidy : Tidy l) : Tidy l' := by
  have kept : l'.current = l.current → l.used ⊆ l'.used → ∀ k, l'.current = some k → k ∈ l'.used :=
    fun same used k now => used (tidy.current k (same ▸ now))
  have none' : ∀ k : K, (none : Option K) = some k → k ∈ l'.used := by
    intro k impossible
    nomatch impossible
  cases turn with
  | idle current members given => exact ⟨tidy_given tidy given none', kept current given.used⟩
  | hand v _ current members given =>
    exact ⟨tidy_given tidy given fun k now => given.used (tidy.current k now),
      kept current given.used⟩
  | rekey k shrinks fresh drawn current given =>
    refine ⟨tidy_given tidy given fun k' now => Option.some.inj now ▸ drawn, fun k' now => ?_⟩
    rw [current] at now
    exact Option.some.inj now ▸ drawn
  | close empty current given =>
    refine ⟨tidy_given tidy given none', fun k now => ?_⟩
    rw [current] at now
    nomatch now
  | land v keyed current members given =>
    exact ⟨tidy_given tidy given fun k now => given.used (tidy.current k now),
      kept current given.used⟩
  | slip loose | adopt loose => exact loose.elim

theorem Issue.tidy (issue : Issue l l' v k) (tidy : Tidy l) : Tidy l' where
  handed := tidy_given tidy issue.given fun k' now =>
    issue.given.used (tidy.current k' (issue.current.trans now))
  current := fun k' now => issue.given.used (tidy.current k' (issue.same ▸ now))

/-- A dead key stays out of the hands of those who are handed something else. -/
private theorem dead_last (dead : Dead l k) (given : Given l l' users key) (other : key ≠ some k)
    (member : u ∈ l.members) : l'.last u ≠ some k := by
  by_cases told : u ∈ users
  · rw [given.inside u told]
    cases key with
    | none => exact dead.notLast u member
    | some k' => exact other
  · rw [given.outside u told]
    exact dead.notLast u member

/-- **A dead key stays dead** through every turn of a tight group. -/
theorem Turn.dead (turn : Turn LandsKeyed False l l') (dead : Dead l k) : Dead l' k := by
  cases turn with
  | idle current members given =>
    exact ⟨given.used dead.used, current ▸ dead.notCurrent,
      fun u member => dead_last dead given (by simp) (members ▸ member)⟩
  | hand v _ current members given =>
    exact ⟨given.used dead.used, current ▸ dead.notCurrent,
      fun u member => dead_last dead given dead.notCurrent (members ▸ member)⟩
  | rekey k' shrinks fresh drawn current given =>
    -- The new key is fresh, so it is not the dead one.
    have other : some k' ≠ some k := fun same => fresh (Option.some.inj same ▸ dead.used)
    exact ⟨given.used dead.used, current ▸ other,
      fun u member => dead_last dead given other (shrinks member)⟩
  | close empty current given =>
    refine ⟨given.used dead.used, by rw [current]; simp, fun u member => ?_⟩
    rw [empty] at member
    exact absurd member (Set.notMem_empty u)
  | land v keyed current members given =>
    refine ⟨given.used dead.used, current ▸ dead.notCurrent, fun u member => ?_⟩
    rw [members] at member
    rcases member with rfl | before
    · rw [given.inside u rfl]
      cases now : l.current with
      | none =>
        -- Without a current key the newcomer was never handed one.
        have never : l.last u = none := by
          by_contra handed
          exact keyed handed now
        simp [never]
      | some k' =>
        rw [Option.some_or, ← now]
        exact dead.notCurrent
    · exact dead_last dead given dead.notCurrent before
  | slip loose | adopt loose => exact loose.elim

theorem Issue.dead (issue : Issue l l' v k) {old : K} (dead : Dead l old) : Dead l' old where
  used := issue.given.used dead.used
  notCurrent := issue.same ▸ dead.notCurrent
  notLast := fun _ member =>
    dead_last dead issue.given (issue.current ▸ dead.notCurrent) (issue.members ▸ member)

/-- A member that a turn takes out was handed only keys that are dead after it. -/
theorem Turn.departed (turn : Turn LandsKeyed False l l') (tidy : Tidy l) (was : u ∈ l.members)
    (gone : u ∉ l'.members) (held : k ∈ l'.handed u) : Dead l' k := by
  cases turn with
  | idle current members given | hand v _ current members given => exact absurd (members ▸ was) gone
  | rekey k' shrinks fresh drawn current given =>
    have before : k ∈ l.handed u :=
      (given.handed u k held).resolve_right fun told => gone told.1
    have other : some k' ≠ some k :=
      fun same => fresh (Option.some.inj same ▸ tidy.handed u before)
    refine ⟨given.used (tidy.handed u before), current ▸ other, fun v member => ?_⟩
    rw [given.inside v member]
    exact other
  | close empty current given =>
    have before : k ∈ l.handed u :=
      (given.handed u k held).resolve_right fun told => Set.notMem_empty u told.1
    refine ⟨given.used (tidy.handed u before), by rw [current]; simp, fun v member => ?_⟩
    rw [empty] at member
    exact absurd member (Set.notMem_empty v)
  | land v keyed current members given =>
    rw [members] at gone
    exact absurd (Set.mem_insert_of_mem v was) gone
  | slip loose | adopt loose => exact loose.elim

/-- A turn hands keys to members only. -/
theorem Turn.handed (turn : Turn lands False l l') (out : u ∉ l'.members) :
    ∀ k ∈ l'.handed u, k ∈ l.handed u := by
  have outside : ∀ {users : Set U} {key : Option K}, Given l l' users key → u ∉ users →
      ∀ k ∈ l'.handed u, k ∈ l.handed u :=
    fun given untold k held => (given.handed u k held).resolve_right fun told => untold told.1
  cases turn with
  | idle current members given => exact outside given (Set.notMem_empty u)
  | hand v member current members given =>
    exact outside given fun same => out (members ▸ Set.mem_singleton_iff.mp same ▸ member)
  | rekey k' shrinks fresh drawn current given => exact outside given out
  | close empty current given => exact outside given (Set.notMem_empty u)
  | land v keyed current members given =>
    exact outside given fun same => out (members ▸ .inl (Set.mem_singleton_iff.mp same))
  | slip loose | adopt loose => exact loose.elim

theorem Turn.chain_tidy (turns : Relation.ReflTransGen (Turn lands False) l l') (tidy : Tidy l) :
    Tidy l' := by
  induction turns with
  | refl => exact tidy
  | tail _ turn ih => exact turn.tidy ih

/-- **Nothing a departed member holds is of use.**  Whoever was a member before a
chain of turns and is none after it was handed only keys that are dead now. -/
theorem Turn.chain_dead (turns : Relation.ReflTransGen (Turn LandsKeyed False) l l') (tidy : Tidy l)
    (was : u ∈ l.members) (gone : u ∉ l'.members) : ∀ k ∈ l'.handed u, Dead l' k := by
  -- In between the user may be in and out again; whenever out, all is dead.
  have settled : u ∈ l'.members ∨ ∀ k ∈ l'.handed u, Dead l' k := by
    clear gone
    induction turns with
    | refl => exact .inl was
    | @tail b c chain turn ih =>
      by_cases still : u ∈ c.members
      · exact .inl still
      · right
        intro k held
        rcases ih with inside | dead
        · exact turn.departed (Turn.chain_tidy chain tidy) inside still held
        · exact turn.dead (dead k (turn.handed still k held))
  exact settled.resolve_left gone

/-! ## Steps -/

/-- A step: turns the group takes by itself, then perhaps a key issued. -/
def Step (lands : Ledger U K → U → Prop) (loose : Prop) (l l' : Ledger U K) : Prop :=
  ∃ mid, Relation.ReflTransGen (Turn lands loose) l mid ∧ (l' = mid ∨ ∃ u k, Issue mid l' u k)

theorem Step.of_turns (turns : Relation.ReflTransGen (Turn lands loose) l l') :
    Step lands loose l l' := ⟨l', turns, Or.inl rfl⟩

/-- What turns and issues keep, steps keep. -/
theorem Step.invariant {Inv : Ledger U K → Prop} (step : Step lands loose l l')
    (turning : ∀ l l', Turn lands loose l l' → Inv l → Inv l')
    (issuing : ∀ l l' u k, Issue l l' u k → Inv l → Inv l') (start : Inv l) : Inv l' := by
  obtain ⟨mid, turns, last⟩ := step
  have reached : Inv mid := by
    clear last
    induction turns with
    | refl => exact start
    | tail _ turn ih => exact turning _ _ turn ih
  grind

theorem Step.agrees (step : Step (fun l _ => l.current ≠ none) loose l l') (agrees : Agrees l) :
    Agrees l' :=
  step.invariant (fun _ _ turn => turn.agrees) (fun _ _ _ _ issue => issue.agrees) agrees

theorem Step.tidy (step : Step lands False l l') (tidy : Tidy l) : Tidy l' :=
  step.invariant (fun _ _ turn => turn.tidy) (fun _ _ _ _ issue => issue.tidy) tidy

theorem Step.dead (step : Step LandsKeyed False l l') (dead : Dead l k) : Dead l' k :=
  step.invariant (fun _ _ turn => turn.dead)
    (fun _ _ _ _ issue => issue.dead) dead

end Ledger

end Kergit.Lib
