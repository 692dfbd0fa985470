import Mathlib.Data.List.Induction
import Kergit.Lib.Staged

/-!
"Since": something happened in a run, and nothing against it has happened since.

`Since step Q P s inputs` says that some input met `Q` in the state it found and
that every input after it met `P`.  Programs keep such facts as marks: a table
entry, a flag, a timestamp that one kind of step writes and every contrary kind of
step erases.  `Since.of_mark` reads the history off the mark.
-/

namespace Kergit.Lib

variable {σ ι : Type*} {step : σ → ι → σ} {P Q R : σ → ι → Prop} {s : σ} {inputs : List ι} {i : ι}

/-- An input met `Q`, and every later one met `P`. -/
def Since (step : σ → ι → σ) (Q P : σ → ι → Prop) (s : σ) (inputs : List ι) : Prop :=
  ∃ earlier i later, inputs = earlier ++ i :: later ∧ Q (run step s earlier) i ∧
    Staged step P (step (run step s earlier) i) later

theorem Since.now (happens : Q (run step s inputs) i) : Since step Q P s (inputs ++ [i]) :=
  ⟨inputs, i, [], rfl, happens, trivial⟩

theorem Since.still (since : Since step Q P s inputs) (undisturbed : P (run step s inputs) i) :
    Since step Q P s (inputs ++ [i]) := by
  obtain ⟨earlier, first, later, rfl, happened, staged⟩ := since
  refine ⟨earlier, first, later ++ [i], by simp, happened, staged_concat.mpr ⟨staged, ?_⟩⟩
  rwa [run_append] at undisturbed

/-- A mark that only `Q` sets, and that stays over a step only if `P` holds there, is
evidence of `Since`.  `Inv` is what else the argument needs of the states. -/
theorem Since.of_mark (Mark Inv : σ → Prop) (staged : Staged step R s inputs)
    (invariant : ∀ s i, Inv s → R s i → Inv (step s i))
    (marks : ∀ s i, Inv s → R s i → Mark (step s i) → (Mark s ∧ P s i) ∨ Q s i)
    (start : Inv s) (clean : ¬ Mark s) (marked : Mark (run step s inputs)) :
    Since step Q P s inputs := by
  induction inputs using List.reverseRecOn with
  | nil => exact absurd marked clean
  | append_singleton earlier i ih =>
    obtain ⟨before, allowed⟩ := staged_concat.mp staged
    have reached := before.invariant Inv invariant start
    rw [run_append, run_cons] at marked
    rcases marks _ i reached allowed marked with ⟨marked', undisturbed⟩ | happens
    · exact (ih before marked').still undisturbed
    · exact .now happens

end Kergit.Lib
