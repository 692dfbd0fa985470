import Mathlib.Data.List.Basic
import Mathlib.Logic.Relation

/-!
Runs as folds, and conditions on the stages of a run.

A program that reacts to one input at a time is a function `step : σ → ι → σ`,
and a run of it over a list of inputs is `run step`, a left fold.  A loop inside
one step is a fold as well, so the same rules serve both.

`Staged step P s inputs` says that every input of the run meets `P` in the state
it finds.  A condition on a run is a stage predicate here rather than a
hypothesis on the states reached, because what decides whether one input is
harmless is the state just before it.

- `staged_append` cuts a run in two; `Staged.mono` weakens the condition.
- `Staged.invariant` is the induction rule: what one step keeps under `P`, a run
  whose stages meet `P` keeps.
- `stages` lists the inputs with the states they find; `Staged.of_stages` reads a
  condition on that list as one on the run.
- `Staged.chain` is the same rule for a relation between states, the form a
  refinement takes: if each stage is a sequence of smaller moves, so is the run.
-/

namespace Kergit.Lib

variable {σ ι α : Type*}

/-- The state after the inputs, in order. -/
def run (step : σ → ι → σ) (s : σ) (inputs : List ι) : σ := inputs.foldl step s

@[simp] theorem run_nil (step : σ → ι → σ) (s : σ) : run step s [] = s := rfl

@[simp] theorem run_cons (step : σ → ι → σ) (s : σ) (i : ι) (rest : List ι) :
    run step s (i :: rest) = run step (step s i) rest := rfl

theorem run_append (step : σ → ι → σ) (s : σ) (first second : List ι) :
    run step s (first ++ second) = run step (run step s first) second :=
  List.foldl_append

/-- Every input meets `P` in the state it is applied to. -/
def Staged (step : σ → ι → σ) (P : σ → ι → Prop) : σ → List ι → Prop
  | _, [] => True
  | s, i :: rest => P s i ∧ Staged step P (step s i) rest

variable {step : σ → ι → σ} {P Q : σ → ι → Prop} {s : σ} {inputs : List ι}

instance Staged.decidable (step : σ → ι → σ) (P : σ → ι → Prop) [∀ s i, Decidable (P s i)] :
    ∀ (s : σ) (inputs : List ι), Decidable (Staged step P s inputs)
  | _, [] => inferInstanceAs (Decidable True)
  | s, i :: rest =>
    have := Staged.decidable step P (step s i) rest
    inferInstanceAs (Decidable (P s i ∧ Staged step P (step s i) rest))

@[simp] theorem staged_nil : Staged step P s [] := trivial

@[simp] theorem staged_cons : Staged step P s (i :: rest) ↔ P s i ∧ Staged step P (step s i) rest :=
  Iff.rfl

theorem staged_append : Staged step P s (first ++ second) ↔
      Staged step P s first ∧ Staged step P (run step s first) second := by
  induction first generalizing s with
  | nil => simp
  | cons i rest ih => simp [ih, and_assoc]

theorem staged_concat :
    Staged step P s (inputs ++ [i]) ↔ Staged step P s inputs ∧ P (run step s inputs) i := by
  simp [staged_append]

theorem Staged.of_forall {R : ι → Prop} (each : ∀ i ∈ inputs, R i) :
    Staged step (fun _ i => R i) s inputs := by
  induction inputs generalizing s with
  | nil => trivial
  | cons i rest ih =>
    exact ⟨each i List.mem_cons_self, ih fun j later => each j (List.mem_cons_of_mem i later)⟩

theorem Staged.mono (staged : Staged step P s inputs) (weaker : ∀ s i, P s i → Q s i) :
    Staged step Q s inputs := by
  induction inputs generalizing s with
  | nil => trivial
  | cons i rest ih => exact ⟨weaker s i staged.1, ih staged.2⟩

theorem Staged.and (first : Staged step P s inputs) (second : Staged step Q s inputs) :
    Staged step (fun s i => P s i ∧ Q s i) s inputs := by
  induction inputs generalizing s with
  | nil => trivial
  | cons i rest ih => exact ⟨⟨first.1, second.1⟩, ih first.2 second.2⟩

/-- A fact about every input can be had at its stage. -/
theorem Staged.and_forall {R : ι → Prop} (staged : Staged step P s inputs)
    (each : ∀ i ∈ inputs, R i) : Staged step (fun s i => R i ∧ P s i) s inputs :=
  (Staged.of_forall each).and staged

/-- An invariant that each admissible step keeps holds after the run. -/
theorem Staged.invariant (staged : Staged step P s inputs) (Inv : σ → Prop)
    (keeps : ∀ s i, Inv s → P s i → Inv (step s i)) (start : Inv s) :
    Inv (run step s inputs) := by
  induction inputs generalizing s with
  | nil => exact start
  | cons i rest ih => exact ih staged.2 (keeps s i start staged.1)

/-- The same, for an invariant that every step keeps. -/
theorem run_invariant {Inv : σ → Prop} (keeps : ∀ s i, Inv s → Inv (step s i)) (start : Inv s) :
    Inv (run step s inputs) := by
  induction inputs generalizing s with
  | nil => exact start
  | cons i rest ih => exact ih (keeps s i start)

/-- Each input with the state it finds. -/
def stages (step : σ → ι → σ) : σ → List ι → List (σ × ι)
  | _, [] => []
  | s, i :: rest => (s, i) :: stages step (step s i) rest

/-- A stage is an input somewhere in the run, in the state the run has there. -/
theorem mem_stages (listed : stage ∈ stages step s inputs) :
    ∃ before after, inputs = before ++ stage.2 :: after ∧ stage.1 = run step s before := by
  induction inputs generalizing s with
  | nil => nomatch listed
  | cons i rest ih =>
    rcases List.mem_cons.mp listed with rfl | later
    · exact ⟨[], rest, rfl, rfl⟩
    · obtain ⟨before, after, rfl, found⟩ := ih later
      exact ⟨i :: before, after, rfl, found⟩

theorem Staged.of_stages (each : ∀ stage ∈ stages step s inputs, P stage.1 stage.2) :
    Staged step P s inputs := by
  induction inputs generalizing s with
  | nil => trivial
  | cons i rest ih =>
    exact ⟨each (s, i) List.mem_cons_self,
      ih fun stage later => each stage (List.mem_cons_of_mem _ later)⟩

/-- If each admissible step is a chain of moves, so is the run. -/
theorem Staged.chain (staged : Staged step P s inputs)
    (chained : ∀ s i, P s i → Relation.ReflTransGen Move s (step s i)) :
    Relation.ReflTransGen Move s (run step s inputs) := by
  induction inputs generalizing s with
  | nil => exact .refl
  | cons i rest ih => exact (chained s i staged.1).trans (ih staged.2)

end Kergit.Lib
