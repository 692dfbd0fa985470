import Kergit.AsyncMessageWriter

/-!
`AsyncMessageWriter::stop`: the queue is stopped and the worker joined.

A stopped queue still hands out what it holds, and the worker returns when it finds nothing.  A
failed request comes back to the queue meanwhile, with an attempt less to go.
-/

namespace Kergit

open Lib

namespace AsyncMessageWriter

variable (w : AsyncMessageWriter)

/-- The worker comes to pop from an empty queue: where that is stopped, its loop returns. -/
def Drained : Prop := w.phase = .popping ∧ w.queue.items = []
deriving Decidable

-- `worker_loop` on a stopped queue, for so many steps; the `n`-th insert ends as the script says.
def drain (script : Nat → Bool) : Nat → AsyncMessageWriter → AsyncMessageWriter
  | 0, w => w
  | n + 1, w => if w.Drained then w else drain script n (w.step (.work (script w.attempts.length)))

/-- The attempts a request has left. -/
def attemptsLeft (req : WriteRequest) : Nat := w.maxRetries - req.attempt + 1

/-- The attempts left to all that is in flight. -/
def budget : Nat := (w.inFlight.map w.attemptsLeft).sum

/-- A bound of the worker's steps from here on. -/
def toGo : Nat :=
  (w.queue.items.map fun req => 5 * w.attemptsLeft req).sum +
    match w.phase with
    | .popping => 0
    | .popped req | .writing req => 5 * (w.maxRetries - req.attempt) + w.phase.remaining
    | .retrying req | .pushing req => 5 * w.attemptsLeft req + w.phase.remaining

variable {w : AsyncMessageWriter} {script : Nat → Bool}

theorem attemptsLeft_step (i : WriterInput) : (w.step i).attemptsLeft = w.attemptsLeft := by
  unfold attemptsLeft
  rw [step_maxRetries]

/-- What is attempted is taken off the budget. -/
theorem budget_work (inserted : Bool) :
    (w.step (.work inserted)).attempts.length + (w.step (.work inserted)).budget ≤
      w.attempts.length + w.budget := by
  unfold budget
  rw [attemptsLeft_step]
  cases step_move w (.work inserted) with
  | shuffle flight attempts => rw [attempts, List.Perm.sum_nat (flight.map _)]
  | refuse _ input | accept _ input => nomatch input
  | attempt req inserted _ _ did =>
    cases did with
    | retry rest _ held flight again attempts | finish rest held flight _ attempts =>
      rw [attempts, held, flight]
      simp [attemptsLeft]
      omega
  | drop req rest held flight _ attempts =>
    rw [attempts, held, flight]
    exact Nat.add_le_add_left (Nat.le_add_left _ _) _

/-- Until it is done, every step brings the worker closer. -/
theorem toGo_work (more : ¬ w.Drained) (inserted : Bool) :
    (w.step (.work inserted)).toGo < w.toGo := by
  simp only [step, work]
  cases at_ : w.phase with
  | popping =>
    cases items : w.queue.items with
    | nil => exact absurd ⟨at_, items⟩ more
    | cons req rest =>
      simp [DbWriteQueue.popFront, toGo, items, at_, attemptsLeft]
      omega
  | popped req => simp [DbWriteQueue.release, toGo, at_, attemptsLeft]
  | writing req =>
    simp only [conclude]
    split
    · simp [toGo, at_, attemptsLeft]
    · split
      · simp [toGo, at_, attemptsLeft]
        omega
      · simp [toGo, at_, attemptsLeft]
  | retrying req =>
    simp only [DbWriteQueue.reserveSlot]
    split
    · simp [toGo, at_, attemptsLeft]
    · rename_i queue reserved
      split at reserved
      · cases reserved
        simp [toGo, at_, attemptsLeft]
      · cases reserved
  | pushing req =>
    simp [DbWriteQueue.push, toGo, at_, attemptsLeft]

/-- Every ticket has been tried or is in flight, and one on its way back has been tried. -/
structure Heard (w : AsyncMessageWriter) : Prop where
  returning : ∀ req, w.phase = .retrying req → w.tried req.ticket ≠ []
  waiting : ∀ t < w.tickets, w.tried t ≠ [] ∨ ∃ req ∈ w.inFlight, req.ticket = t

/-- A step that leaves a request to be put back has just tried it. -/
theorem retrying_step (i : WriterInput) (phase : (w.step i).phase = .retrying req) :
    w.phase = .retrying req ∧ (w.step i).attempts = w.attempts ∨
      ∃ inserted, (w.step i).attempts = w.attempts ++ [(req.ticket, inserted)] := by
  cases i with
  | enqueue msg =>
    simp only [step, enqueue] at phase ⊢
    split at phase <;> exact .inl ⟨phase, rfl⟩
  | arrive k =>
    simp only [step, arrive] at phase ⊢
    split at phase <;> exact .inl ⟨phase, rfl⟩
  | work inserted =>
    simp only [step, work, conclude] at phase ⊢
    grind

/-- What is dropped was to be put back. -/
theorem retrying_of_full (held : w.inFlight = req :: rest) (full : ¬ w.Room i) :
    w.phase = .retrying req := by
  cases i with
  | enqueue msg | arrive k => exact absurd trivial full
  | work inserted =>
    obtain ⟨returns, -⟩ := Classical.not_imp.mp full
    cases phase : w.phase with
    | retrying other =>
      rw [inFlight_held (by rw [phase]; rfl), List.cons.injEq] at held
      rw [held.1]
    | popping | popped _ | writing _ | pushing _ =>
      rw [phase] at returns
      nomatch returns

theorem Heard.step (heard : Heard w) (i : WriterInput) : Heard (w.step i) := by
  constructor
  · intro req phase
    rcases retrying_step i phase with ⟨before, same⟩ | ⟨inserted, tried⟩
    · rw [tried_congr same]
      exact heard.returning req before
    · rw [tried_append tried, if_pos rfl]
      exact List.append_ne_nil_of_right_ne_nil _ (List.cons_ne_nil _ _)
  · intro t early
    cases step_move w i with
    | shuffle flight attempts _ tickets =>
      rw [tried_congr attempts]
      refine (heard.waiting t (tickets ▸ early)).imp_right ?_
      rintro ⟨req, listed, is⟩
      exact ⟨req, flight.mem_iff.mpr listed, is⟩
    | refuse _ _ flight attempts _ tickets =>
      rw [tried_congr attempts, flight]
      exact heard.waiting t (tickets ▸ early)
    | accept msg _ flight attempts _ tickets =>
      rw [tried_congr attempts, flight]
      by_cases before : t < w.tickets
      · grind [heard.waiting t before]
      · exact .inr ⟨_, List.mem_append_right _ List.mem_cons_self, by simp only; omega⟩
    | attempt req inserted _ _ did =>
      cases did with
      | retry rest _ held flight _ attempts _ tickets | finish rest held flight _ attempts _ tickets =>
        have before := heard.waiting t (tickets ▸ early)
        rw [tried_append attempts, flight]
        split
        · exact .inl (by simp)
        · rename_i other
          simpa [held, other] using before
    | drop req rest held flight full attempts _ tickets =>
      have before := heard.waiting t (tickets ▸ early)
      rw [tried_congr attempts, flight]
      by_cases same : req.ticket = t
      · left
        exact same ▸ heard.returning req (retrying_of_full held full)
      · simpa [held, same] using before

theorem work_accepts_nothing (inserted : Bool) :
    (w.step (.work inserted)).tickets = w.tickets ∧ (w.step (.work inserted)).arriving = w.arriving := by
  simp only [step, work, conclude]
  grind

/-- The loop ends, whatever the script says. -/
theorem Heard.drains (heard : Heard w) (pushed : w.arriving = []) :
    ∃ n, (drain script n w).Drained ∧
      (drain script n w).attempts.length ≤ w.attempts.length + w.budget ∧
      ∀ t < w.tickets, (drain script n w).tried t ≠ [] := by
  induction measure : w.toGo using Nat.strong_induction_on generalizing w with
  | _ toGo ih =>
    by_cases done : w.Drained
    · refine ⟨0, done, Nat.le_add_right _ _, fun t early => ?_⟩
      refine (heard.waiting t early).resolve_right ?_
      simp [inFlight, done.1, done.2, pushed]
    · obtain ⟨issued, slots⟩ := @work_accepts_nothing w (script w.attempts.length)
      obtain ⟨n, ends, spent, tried⟩ :=
        ih _ (measure ▸ toGo_work done _) (heard.step _) (slots.trans pushed) rfl
      refine ⟨n + 1, ?_⟩
      rw [drain, if_neg done]
      exact ⟨ends, spent.trans (budget_work _), issued ▸ tried⟩

/-- **A stopped writer drains its queue.**  Whatever was accepted and tried before, and however the
inserts end: the loop returns after at most the attempts that the requests in flight have left, and
everything accepted has been tried by then. -/
theorem shutdown_drains (capacity maxRetries : Nat) (before : List WriterInput) (script : Nat → Bool)
    (pushed : (run step (fresh capacity maxRetries) before).arriving = []) :
    let w := run step (fresh capacity maxRetries) before
    ∃ n, (drain script n w).Drained ∧
      (drain script n w).attempts.length ≤
        w.attempts.length + (w.inFlight.map fun req => maxRetries - req.attempt + 1).sum ∧
      ∀ t < w.tickets, (drain script n w).tried t ≠ [] := by
  intro w
  have heard : Heard w := by
    refine run_invariant (fun w i (heard : Heard w) => heard.step i) ?_
    constructor <;> simp [fresh]
  have retries : w.maxRetries = maxRetries :=
    run_invariant (fun w i kept => (step_maxRetries w i).trans kept) rfl
  rw [← retries]
  exact heard.drains pushed

/-- A message that is tried three times in vain, on a queue of one slot. -/
theorem shutdown_drains_failing :
    let w := run step (fresh 1 2) [.enqueue {}, .arrive 0]
    ∃ n, (drain (fun _ => false) n w).Drained ∧
      (drain (fun _ => false) n w).attempts.length ≤
        w.attempts.length + (w.inFlight.map fun req => 2 - req.attempt + 1).sum ∧
      ∀ t < w.tickets, (drain (fun _ => false) n w).tried t ≠ [] :=
  shutdown_drains 1 2 _ _ rfl

end AsyncMessageWriter

end Kergit
