import Mathlib.Order.WellFounded
import Kergit.Lib.Staged

/-!
Endless runs, and how they get anywhere.

`trace step s inputs n` is the state of an endless run after `n` inputs.  Safety is
proved along it as along finite runs; `trace_reaches` is the rule for progress.  Some
of the inputs are helpful and come again and again; a rank says where a thing stands.
If no input takes it up in rank, and a helpful one takes it down or to the goal, the
goal is reached.  A rank is a relation here, so that a thing can be found in several
places of a state, each with its own measure.
-/

namespace Kergit.Lib

variable {σ ι M : Type*}

/-- The state after `n` inputs. -/
def trace (step : σ → ι → σ) (s : σ) (inputs : ℕ → ι) : ℕ → σ
  | 0 => s
  | n + 1 => step (trace step s inputs n) (inputs n)

variable {step : σ → ι → σ} {s : σ} {inputs : ℕ → ι} {P : σ → ι → Prop}

@[simp] theorem trace_zero : trace step s inputs 0 = s := rfl

@[simp] theorem trace_succ (n : ℕ) :
    trace step s inputs (n + 1) = step (trace step s inputs n) (inputs n) := rfl

/-- What each admissible step keeps holds all along. -/
theorem trace_invariant {Inv : σ → Prop} (allowed : ∀ n, P (trace step s inputs n) (inputs n))
    (keeps : ∀ s i, Inv s → P s i → Inv (step s i)) (start : Inv s) (n : ℕ) :
    Inv (trace step s inputs n) := by
  induction n with
  | zero => exact start
  | succ n ih => exact keeps _ _ ih (allowed n)

/-- What each step keeps, once it holds, holds from then on. -/
theorem trace_stays (Q : σ → Prop) (keeps : ∀ s i, Q s → Q (step s i)) (later : n ≤ m)
    (now : Q (trace step s inputs n)) : Q (trace step s inputs m) := by
  induction later with
  | refl => exact now
  | step _ ih => exact keeps _ _ ih

/-- **Progress.**  A rank that no input raises and every helpful input lowers, until the
goal is reached at some input. -/
theorem trace_reaches (Rank : σ → M → Prop) (Goal Helpful : σ → ι → Prop) (wf : WellFounded lt)
    (often : ∀ n, ∃ m, n ≤ m ∧ Helpful (trace step s inputs m) (inputs m))
    (stays : ∀ n rank, Rank (trace step s inputs n) rank → Goal (trace step s inputs n) (inputs n) ∨
      ∃ rank', (rank' = rank ∨ lt rank' rank) ∧ Rank (trace step s inputs (n + 1)) rank')
    (helps : ∀ n rank, Rank (trace step s inputs n) rank →
      Helpful (trace step s inputs n) (inputs n) → Goal (trace step s inputs n) (inputs n) ∨
      ∃ rank', lt rank' rank ∧ Rank (trace step s inputs (n + 1)) rank')
    (n : ℕ) (rank : M) (start : Rank (trace step s inputs n) rank) :
    ∃ m, n ≤ m ∧ Goal (trace step s inputs m) (inputs m) := by
  induction rank using wf.induction generalizing n with
  | _ rank lower =>
    obtain ⟨next, later, helpful⟩ := often n
    -- The way to the next helpful input, at an unchanged rank or a lower one.
    obtain ⟨gap, rfl⟩ := Nat.exists_eq_add_of_le later
    clear later
    induction gap generalizing n with
    | zero =>
      rcases helps n rank start helpful with goal | ⟨rank', less, found⟩
      · exact ⟨n, le_refl n, goal⟩
      · obtain ⟨m, after, goal⟩ := lower rank' less (n + 1) found
        exact ⟨m, by omega, goal⟩
    | succ gap ih =>
      rcases stays n rank start with goal | ⟨rank', same | less, found⟩
      · exact ⟨n, le_refl n, goal⟩
      · subst same
        have shift : n + 1 + gap = n + (gap + 1) := by omega
        obtain ⟨m, after, goal⟩ := ih (n + 1) found (by rw [shift]; exact helpful)
        exact ⟨m, by omega, goal⟩
      · obtain ⟨m, after, goal⟩ := lower rank' less (n + 1) found
        exact ⟨m, by omega, goal⟩

end Kergit.Lib
