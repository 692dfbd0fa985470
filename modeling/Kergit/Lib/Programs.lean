import Mathlib.Data.List.Basic
import Kergit.Lib.Staged

/-!
Programs over a shared state, interleaved call by call.

A `Prog` is what is left of a program: a result, an exception, or one call and what
follows each of its outcomes.  A `Pool` runs any number of such programs over one
state; a call is atomic, and between two calls of one task every other task may make
calls.  The `Scene` of a pool is the shared state together with the history of all
tasks, so that a condition on an interleaving can speak about who has done what.

- `Composed`: a program put together from parts; what its parts call, it calls.
- `Pool.Rules`: an invariant of the scene and of each task's rest, move by move.
- `Pool.Rules.run`: they hold after every run whose stages meet the conditions.
-/

namespace Kergit.Lib

/-- A program that makes calls `c`, answered in `Answer c` or by an exception. -/
inductive Prog (Call : Type) (Answer : Call → Type) (Err α : Type) where
  | ret (result : α)
  | raise (error : Err)
  | call (c : Call) (next : Except Err (Answer c) → Prog Call Answer Err α)

variable {Call : Type} {Answer : Call → Type} {Err Cmd Reply σ ε α β : Type}

namespace Prog

protected def bind : Prog Call Answer Err α → (α → Prog Call Answer Err β) →
    Prog Call Answer Err β
  | ret a, f => f a
  | raise e, _ => raise e
  | call c next, f => call c fun answer => (next answer).bind f

instance : Monad (Prog Call Answer Err) where
  pure := ret
  bind := Prog.bind

/-- One call; an exception it throws goes on upwards. -/
def ask (c : Call) : Prog Call Answer Err (Answer c) :=
  call c fun
    | .ok answer => ret answer
    | .error e => raise e

/-- `try`: the exception becomes a value. -/
def attempt : Prog Call Answer Err α → Prog Call Answer Err (Except Err α)
  | ret a => ret (.ok a)
  | raise e => ret (.error e)
  | call c next => call c fun answer => (next answer).attempt

/-- A loop over a list. -/
def forEach (body : β → Prog Call Answer Err Unit) : List β → Prog Call Answer Err Unit
  | [] => ret ()
  | b :: rest => (body b).bind fun _ => forEach body rest

/-- A loop that collects a result per element. -/
def collect (body : β → Prog Call Answer Err α) : List β → Prog Call Answer Err (List α)
  | [] => ret []
  | b :: rest => (body b).bind fun a => (collect body rest).bind fun as => ret (a :: as)

/-- The program run by itself, in one environment. -/
def alone (exec : ε → (c : Call) → σ → Except Err (Answer c) × σ) (env : ε) :
    Prog Call Answer Err α → σ → Except Err α × σ
  | ret a, s => (.ok a, s)
  | raise e, s => (.error e, s)
  | call c next, s => alone exec env (next (exec env c s).1) (exec env c s).2

theorem alone_bind (first : alone exec env p s = (.ok a, s')) :
    alone exec env (p >>= f) s = alone exec env (f a) s' := by
  induction p generalizing s with
  | ret b =>
    cases first
    rfl
  | raise e => exact absurd first (by simp [alone])
  | call c next ih => exact ih _ first

/-- A program that comes to a result has come through its first part. -/
theorem alone_bind_ok (done : (alone exec env (p >>= f) s).1 = .ok b) :
    ∃ a s', alone exec env p s = (.ok a, s') := by
  induction p generalizing s with
  | ret a => exact ⟨a, s, rfl⟩
  | raise e => nomatch done
  | call c next ih => exact ih _ done

/-- Every call the program can come to make meets `P`. -/
def Only (P : Call → Prop) : Prog Call Answer Err α → Prop
  | ret _ => True
  | raise _ => True
  | call c next => P c ∧ ∀ answer, (next answer).Only P

section Only

variable {P : Call → Prop} {p : Prog Call Answer Err α} {f : α → Prog Call Answer Err β}

theorem Only.alone_keeps
    (only : p.Only P) (Inv : σ → Prop) (keeps : ∀ c s, P c → Inv s → Inv (exec env c s).2)
    (inv : Inv s) : Inv (alone exec env p s).2 := by
  induction p generalizing s with
  | ret a | raise e => exact inv
  | call c next ih => exact ih _ (only.2 _) (keeps c s only.1 inv)

theorem Only.ask {c : Call} (allowed : P c) :
    Only P (Prog.ask c : Prog Call Answer Err (Answer c)) :=
  ⟨allowed, fun | .ok _ | .error _ => trivial⟩

theorem Only.bind (first : Only P p) (rest : ∀ a, Only P (f a)) : Only P (p >>= f) := by
  induction p with
  | ret a => exact rest a
  | raise e => trivial
  | call c next ih => exact ⟨first.1, fun answer => ih answer (first.2 answer)⟩

theorem Only.attempt (only : Only P p) : Only P p.attempt := by
  induction p with
  | ret a | raise e => trivial
  | call c next ih => exact ⟨only.1, fun answer => ih answer (only.2 answer)⟩

theorem Only.forEach {body : β → Prog Call Answer Err Unit}
    (each : ∀ b ∈ items, Only P (body b)) : Only P (forEach body items) := by
  induction items with
  | nil => trivial
  | cons b rest ih =>
    refine Only.bind (each b List.mem_cons_self) fun _ => ?_
    exact ih fun b' later => each b' (List.mem_cons_of_mem _ later)

theorem Only.collect {body : β → Prog Call Answer Err α}
    (each : ∀ b ∈ items, Only P (body b)) : Only P (collect body items) := by
  induction items with
  | nil => trivial
  | cons b rest ih =>
    refine Only.bind (each b List.mem_cons_self) fun a => ?_
    refine Only.bind (ih fun b' later => each b' (List.mem_cons_of_mem _ later)) fun as => ?_
    trivial

theorem Only.mono (only : Only P p) (weaker : ∀ c, P c → Q c) : Only Q p := by
  induction p with
  | ret a | raise e => trivial
  | call c next ih => exact ⟨weaker c only.1, fun answer => ih answer (only.2 answer)⟩

end Only

/-- Whatever the calls answer, what the program returns meets `Q`. -/
def Yields (Q : α → Prop) : Prog Call Answer Err α → Prop
  | ret a => Q a
  | raise _ => True
  | call _ next => ∀ answer, (next answer).Yields Q

section Yields

variable {Q : α → Prop} {R : β → Prop} {p : Prog Call Answer Err α}
  {f : α → Prog Call Answer Err β}

theorem Yields.bind (first : p.Yields Q) (rest : ∀ a, Q a → (f a).Yields R) :
    (p >>= f).Yields R := by
  induction p with
  | ret a => exact rest a first
  | raise e => trivial
  | call c next ih => exact fun answer => ih answer (first answer)

theorem yields_true : p.Yields fun _ => True := by
  induction p with
  | ret a | raise e => trivial
  | call c next ih => exact ih

/-- A program whose own result does not matter. -/
theorem yields_bind (rest : ∀ a, (f a).Yields R) : (p >>= f).Yields R := by
  induction p with
  | ret a => exact rest a
  | raise e => trivial
  | call c next ih => exact fun answer => ih answer

theorem Yields.attempt (yields : p.Yields Q) :
    p.attempt.Yields fun result => ∀ a, result = .ok a → Q a := by
  induction p with
  | ret a =>
    rintro _ ⟨⟩
    exact yields
  | raise e => exact nofun
  | call c next ih => exact fun answer => ih answer (yields answer)

/-- The calls of a program that goes on with a result. -/
theorem Only.bind_yields (only : p.Only P) (yields : p.Yields Q)
    (rest : ∀ a, Q a → (f a).Only P) : (p >>= f).Only P := by
  induction p with
  | ret a => exact rest a yields
  | raise e => trivial
  | call c next ih => exact ⟨only.1, fun answer => ih answer (only.2 answer) (yields answer)⟩

theorem Yields.collect {body : β → Prog Call Answer Err α} (each : ∀ b ∈ items, (body b).Yields Q) :
    (Prog.collect body items).Yields fun as => ∀ a ∈ as, Q a := by
  induction items with
  | nil => exact nofun
  | cons b rest ih =>
    refine Yields.bind (each b List.mem_cons_self) fun a first => ?_
    refine Yields.bind (ih fun b' later => each b' (List.mem_cons_of_mem _ later)) fun as others => ?_
    exact List.forall_mem_cons.mpr ⟨first, others⟩

end Yields

/-- The program is put together from parts, and whatever its calls answer it returns what
`Q` says. -/
inductive Composed (Part : ∀ ⦃β : Type⦄, Prog Call Answer Err β → Prop) :
    ∀ {α : Type}, Prog Call Answer Err α → (α → Prop) → Prop
  | part {α : Type} {p : Prog Call Answer Err α} {Q : α → Prop} (is : Part p)
      (yields : p.Yields Q) : Composed Part p Q
  | pure {α : Type} {a : α} {Q : α → Prop} (holds : Q a) : Composed Part (pure a) Q
  | raise {α : Type} {e : Err} {Q : α → Prop} : Composed Part (.raise e) Q
  | bind {α β : Type} {p : Prog Call Answer Err α} {f : α → Prog Call Answer Err β} {Q : α → Prop}
      {R : β → Prop} (first : Composed Part p Q) (rest : ∀ a, Q a → Composed Part (f a) R) :
      Composed Part (p >>= f) R
  | attempt {α : Type} {p : Prog Call Answer Err α} {Q : α → Prop} (body : Composed Part p Q) :
      Composed Part p.attempt fun result => ∀ a, result = .ok a → Q a
  | collect {α β : Type} {body : β → Prog Call Answer Err α} {items : List β} {Q : α → Prop}
      (each : ∀ b, Composed Part (body b) Q) :
      Composed Part (collect body items) fun as => ∀ a ∈ as, Q a
  | forEach {β : Type} {body : β → Prog Call Answer Err Unit} {items : List β}
      (each : ∀ b, Composed Part (body b) fun _ => True) :
      Composed Part (forEach body items) fun _ => True

namespace Composed

variable {Part : ∀ ⦃β : Type⦄, Prog Call Answer Err β → Prop} {p : Prog Call Answer Err α}
  {f : α → Prog Call Answer Err β} {Q : α → Prop} {R : β → Prop}

theorem yields (composed : p.Composed Part Q) : p.Yields Q := by
  induction composed with
  | part is yields => exact yields
  | pure holds => exact holds
  | raise => trivial
  | bind first rest ihFirst ihRest => exact ihFirst.bind ihRest
  | attempt body ih => exact ih.attempt
  | collect each ih => exact .collect fun b _ => ih b
  | forEach each ih => exact yields_true

theorem only (composed : p.Composed Part Q)
    (parts : ∀ ⦃β⦄ (p : Prog Call Answer Err β), Part p → p.Only P) : p.Only P := by
  induction composed with
  | part is yields => exact parts _ is
  | pure holds | raise => trivial
  | bind first rest ihFirst ihRest => exact ihFirst.bind_yields first.yields ihRest
  | attempt body ih => exact ih.attempt
  | collect each ih => exact .collect fun b _ => ih b
  | forEach each ih => exact .forEach fun b _ => ih b

theorem after (first : p.Composed Part fun _ => True) (rest : ∀ a, (f a).Composed Part R) :
    (p >>= f).Composed Part R := .bind first fun a _ => rest a

/-- A part whose own result does not matter, and what follows. -/
theorem next (is : Part p) (rest : ∀ a, (f a).Composed Part R) : (p >>= f).Composed Part R :=
  after (.part is yields_true) rest

theorem next_attempt {f : Except Err α → Prog Call Answer Err β} (is : Part p)
    (rest : ∀ result, (f result).Composed Part R) : (p.attempt >>= f).Composed Part R :=
  .bind (.attempt (.part is yields_true)) fun result _ => rest result

end Composed

end Prog

/-! ## Pools -/

/-- What calls do to the shared state, and the program behind each command. -/
structure Machine (Call : Type) (Answer : Call → Type) (Err Cmd Reply σ ε : Type) where
  exec : ε → (c : Call) → σ → Except Err (Answer c) × σ
  prog : Cmd → Prog Call Answer Err Reply

/-- What a task can do that others can tell. -/
inductive Event (Call : Type) (Answer : Call → Type) (Err Cmd Reply : Type) where
  | began (i : Nat) (cmd : Cmd)
  | called (i : Nat) (c : Call) (answer : Except Err (Answer c))
  | returned (i : Nat) (result : Except Err Reply)

def Event.task : Event Call Answer Err Cmd Reply → Nat
  | .began i _ => i
  | .called i _ _ => i
  | .returned i _ => i

@[simp] theorem Event.task_called (i : Nat) (c : Call) (answer : Except Err (Answer c)) :
    (called i c answer : Event Call Answer Err Cmd Reply).task = i := rfl

namespace Event

/-- The event starts task `i`, with such a command. -/
def begins (i : Nat) (P : Cmd → Bool) : Event Call Answer Err Cmd Reply → Bool
  | .began j cmd => decide (j = i) && P cmd
  | _ => false

/-- The event is such a call of task `i`. -/
def calls (i : Nat) (P : (c : Call) → Except Err (Answer c) → Bool) :
    Event Call Answer Err Cmd Reply → Bool
  | .called j c answer => decide (j = i) && P c answer
  | _ => false

/-- The event ends task `i`, with such a result. -/
def returns (i : Nat) (P : Except Err Reply → Bool) : Event Call Answer Err Cmd Reply → Bool
  | .returned j result => decide (j = i) && P result
  | _ => false

variable {event : Event Call Answer Err Cmd Reply} {i : Nat}

theorem task_of_begins (begins : event.begins i P = true) : event.task = i := by
  cases event with
  | began j cmd => exact of_decide_eq_true (Bool.and_eq_true_iff.mp begins).1
  | called j c answer | returned j result => exact absurd begins (by simp [Event.begins])

theorem task_of_calls (calls : event.calls i P = true) : event.task = i := by
  cases event with
  | called j c answer => exact of_decide_eq_true (Bool.and_eq_true_iff.mp calls).1
  | began j cmd | returned j result => exact absurd calls (by simp [Event.calls])

theorem task_of_returns (returns : event.returns i P = true) : event.task = i := by
  cases event with
  | returned j result => exact of_decide_eq_true (Bool.and_eq_true_iff.mp returns).1
  | began j cmd | called j c answer => exact absurd returns (by simp [Event.returns])

end Event

/-- The shared state, and what has happened, latest first. -/
structure Scene (Call : Type) (Answer : Call → Type) (Err Cmd Reply σ : Type) where
  shared : σ
  history : List (Event Call Answer Err Cmd Reply) := []

namespace Scene

variable (s : Scene Call Answer Err Cmd Reply σ)

/-- What task `i` has done, latest first. -/
def trace (i : Nat) : List (Event Call Answer Err Cmd Reply) :=
  s.history.filter fun event => event.task = i

section

variable (event : Event Call Answer Err Cmd Reply)

/-- The scene after an event that moves the shared state to `shared`. -/
def log (shared : σ) : Scene Call Answer Err Cmd Reply σ where
  shared
  history := event :: s.history

@[simp, grind =] theorem log_shared (shared : σ) :
    (s.log event shared).shared = shared := rfl

@[simp, grind =] theorem log_history (shared : σ) :
    (s.log event shared).history = event :: s.history := rfl

@[simp] theorem trace_log (shared : σ) (i : Nat) :
    (s.log event shared).trace i = if event.task = i then event :: s.trace i else s.trace i := by
  rw [trace, trace, log_history, List.filter_cons]
  simp only [decide_eq_true_eq]

end

theorem mem_trace {s : Scene Call Answer Err Cmd Reply σ} :
    event ∈ s.trace i ↔ event ∈ s.history ∧ event.task = i := by
  simp [trace]

/-- Only tasks other than `i` have moved. -/
structure Others (i : Nat) (s s' : Scene Call Answer Err Cmd Reply σ) : Prop where
  trace : s'.trace i = s.trace i
  grown : ∀ event ∈ s.history, event ∈ s'.history

/-- An event of another task. -/
theorem Others.log (other : event.task ≠ i) (shared : σ) : Others i s (s.log event shared) :=
  ⟨by rw [trace_log, if_neg other], fun _ listed => List.mem_cons_of_mem _ listed⟩

/-! ### Reading the history -/

section History

variable (i : Nat) (B : Cmd → Bool) (C : (c : Call) → Except Err (Answer c) → Bool)
  (R : Except Err Reply → Bool)

/-- Task `i` has begun such a command. -/
def Began : Prop := ∃ event ∈ s.history, event.begins i B = true
deriving Decidable

/-- Task `i` has made such a call. -/
def Called : Prop := ∃ event ∈ s.history, event.calls i C = true
deriving Decidable

/-- Task `i` has returned with such a result. -/
def Returned : Prop := ∃ event ∈ s.history, event.returns i R = true
deriving Decidable

/-- Some task is such. -/
def Some (φ : Nat → Prop) : Prop := ∃ event ∈ s.history, φ event.task

instance (φ : Nat → Prop) [DecidablePred φ] : Decidable (s.Some φ) :=
  inferInstanceAs (Decidable (∃ event ∈ s.history, φ event.task))

variable {s i B C R} {s' : Scene Call Answer Err Cmd Reply σ}

theorem began_iff : s.Began i B ↔ ∃ cmd, .began i cmd ∈ s.history ∧ B cmd = true := by
  constructor
  · rintro ⟨event, listed, begins⟩
    cases event with
    | began j cmd =>
      obtain ⟨rfl, is⟩ : j = i ∧ B cmd = true := by simpa [Event.begins] using begins
      exact ⟨cmd, listed, is⟩
    | called j c answer | returned j result => nomatch begins
  · rintro ⟨cmd, listed, is⟩
    exact ⟨_, listed, by simp [Event.begins, is]⟩

theorem returned_iff : s.Returned i R ↔ ∃ result, .returned i result ∈ s.history ∧
    R result = true := by
  constructor
  · rintro ⟨event, listed, returns⟩
    cases event with
    | began j cmd | called j c answer => nomatch returns
    | returned j result =>
      obtain ⟨rfl, is⟩ : j = i ∧ R result = true := by simpa [Event.returns] using returns
      exact ⟨result, listed, is⟩
  · rintro ⟨result, listed, is⟩
    exact ⟨_, listed, by simp [Event.returns, is]⟩

theorem Began.mono (began : s.Began i B) (grown : ∀ event ∈ s.history, event ∈ s'.history) :
    s'.Began i B := by
  obtain ⟨event, listed, begins⟩ := began
  exact ⟨event, grown event listed, begins⟩

theorem Called.mono (called : s.Called i C) (grown : ∀ event ∈ s.history, event ∈ s'.history) :
    s'.Called i C := by
  obtain ⟨event, listed, calls⟩ := called
  exact ⟨event, grown event listed, calls⟩

theorem Others.returned_iff (others : Others i s s') : s'.Returned i R ↔ s.Returned i R := by
  refine exists_congr fun event => and_congr_left fun returns => ?_
  have same := congrArg (event ∈ ·) others.trace
  simpa [mem_trace, Event.task_of_returns returns] using same

/-- A task that has begun is some task. -/
theorem Began.some (began : s.Began i B) (is : φ i) : s.Some φ := by
  obtain ⟨event, listed, begins⟩ := began
  exact ⟨event, listed, Event.task_of_begins begins ▸ is⟩

section

variable (fresh : s.trace i = [])

include fresh

/-- A task without a trace has done nothing. -/
theorem not_mem_of_fresh {event : Event Call Answer Err Cmd Reply} (mine : event.task = i) :
    event ∉ s.history := by
  intro listed
  have own : event ∈ s.trace i := mem_trace.mpr ⟨listed, mine⟩
  rw [fresh] at own
  nomatch own

theorem not_began_of_fresh : ¬ s.Began i B := by
  rintro ⟨event, listed, begins⟩
  exact not_mem_of_fresh fresh (Event.task_of_begins begins) listed

theorem not_called_of_fresh : ¬ s.Called i C := by
  rintro ⟨event, listed, calls⟩
  exact not_mem_of_fresh fresh (Event.task_of_calls calls) listed

theorem not_returned_of_fresh : ¬ s.Returned i R := by
  rintro ⟨event, listed, returns⟩
  exact not_mem_of_fresh fresh (Event.task_of_returns returns) listed

end

variable {j : Nat} {cmd : Cmd} {c : Call} {answer : Except Err (Answer c)}
  {result : Except Err Reply} {shared : σ}

@[simp] theorem began_log_began :
    (s.log (.began j cmd) shared).Began i B ↔ (j = i ∧ B cmd = true) ∨ s.Began i B := by
  simp [Began, Event.begins]

@[simp] theorem began_log_called :
    (s.log (.called j c answer) shared).Began i B ↔ s.Began i B := by
  simp [Began, Event.begins]

@[simp] theorem began_log_returned :
    (s.log (.returned j result) shared).Began i B ↔ s.Began i B := by
  simp [Began, Event.begins]

@[simp] theorem called_log_began :
    (s.log (.began j cmd) shared).Called i C ↔ s.Called i C := by
  simp [Called, Event.calls]

@[simp] theorem called_log_called :
    (s.log (.called j c answer) shared).Called i C ↔
      (j = i ∧ C c answer = true) ∨ s.Called i C := by
  simp [Called, Event.calls]

@[simp] theorem called_log_returned :
    (s.log (.returned j result) shared).Called i C ↔ s.Called i C := by
  simp [Called, Event.calls]

@[simp] theorem returned_log_began :
    (s.log (.began j cmd) shared).Returned i R ↔ s.Returned i R := by
  simp [Returned, Event.returns]

@[simp] theorem returned_log_called :
    (s.log (.called j c answer) shared).Returned i R ↔ s.Returned i R := by
  simp [Returned, Event.returns]

@[simp] theorem returned_log_returned :
    (s.log (.returned j result) shared).Returned i R ↔
      (j = i ∧ R result = true) ∨ s.Returned i R := by
  simp [Returned, Event.returns]

end History

end Scene

/-- A command starts, or a task makes its next call in some environment. -/
inductive Move (Cmd ε : Type) where
  | start (cmd : Cmd)
  | turn (i : Nat) (env : ε)

/-- Tasks with the rest of their programs; `none` once a task has returned. -/
structure Pool (Call : Type) (Answer : Call → Type) (Err Cmd Reply σ : Type) where
  scene : Scene Call Answer Err Cmd Reply σ
  tasks : List (Option (Prog Call Answer Err Reply)) := []

namespace Pool

variable (M : Machine Call Answer Err Cmd Reply σ ε)

/-- One move. -/
def step (pool : Pool Call Answer Err Cmd Reply σ) :
    Move Cmd ε → Pool Call Answer Err Cmd Reply σ
  | .start cmd =>
    { scene := pool.scene.log (.began pool.tasks.length cmd) pool.scene.shared
      tasks := pool.tasks ++ [some (M.prog cmd)] }
  | .turn i env =>
    match pool.tasks[i]? with
    | some (some (.ret result)) =>
      { scene := pool.scene.log (.returned i (.ok result)) pool.scene.shared
        tasks := pool.tasks.set i none }
    | some (some (.raise error)) =>
      { scene := pool.scene.log (.returned i (.error error)) pool.scene.shared
        tasks := pool.tasks.set i none }
    | some (some (.call c next)) =>
      let out := M.exec env c pool.scene.shared
      { scene := pool.scene.log (.called i c out.1) out.2
        tasks := pool.tasks.set i (some (next out.1)) }
    | _ => pool

/-- The condition `Can` on the call a move makes; a start and a return make none. -/
def NextCall (Can : Scene Call Answer Err Cmd Reply σ → Nat → ε → Call → Prop)
    (pool : Pool Call Answer Err Cmd Reply σ) : Move Cmd ε → Prop
  | .start _ => True
  | .turn i env =>
    match pool.tasks[i]? with
    | some (some (.call c _)) => Can pool.scene i env c
    | _ => True

instance NextCall.decidable (Can : Scene Call Answer Err Cmd Reply σ → Nat → ε → Call → Prop)
    [∀ s i env c, Decidable (Can s i env c)] (pool : Pool Call Answer Err Cmd Reply σ) :
    (move : Move Cmd ε) → Decidable (pool.NextCall Can move)
  | .start _ => inferInstanceAs (Decidable True)
  | .turn i env =>
    match found : pool.tasks[i]? with
    | some (some (.call c _)) =>
      decidable_of_iff (Can pool.scene i env c) (by simp only [NextCall, found])
    | some (some (.ret _)) => isTrue (by simp only [NextCall, found])
    | some (some (.raise _)) => isTrue (by simp only [NextCall, found])
    | some none => isTrue (by simp only [NextCall, found])
    | none => isTrue (by simp only [NextCall, found])

/-- A weaker condition on the calls holds of the same moves. -/
theorem NextCall.mono {pool : Pool Call Answer Err Cmd Reply σ}
    (weaker : ∀ i env c, Can pool.scene i env c → Good pool.scene i env c)
    (calls : pool.NextCall Can move) : pool.NextCall Good move := by
  cases move with
  | start cmd => trivial
  | turn i env =>
    simp only [NextCall] at calls ⊢
    grind

/-- The condition on a move: `Start` on a command that starts, `Can` on a call. -/
def Next (Start : Scene Call Answer Err Cmd Reply σ → Cmd → Prop)
    (Can : Scene Call Answer Err Cmd Reply σ → Nat → ε → Call → Prop)
    (pool : Pool Call Answer Err Cmd Reply σ) : Move Cmd ε → Prop
  | .start cmd => Start pool.scene cmd
  | .turn i env => pool.NextCall Can (.turn i env : Move Cmd ε)

instance Next.decidable (Start : Scene Call Answer Err Cmd Reply σ → Cmd → Prop)
    (Can : Scene Call Answer Err Cmd Reply σ → Nat → ε → Call → Prop)
    [∀ s cmd, Decidable (Start s cmd)] [∀ s i env c, Decidable (Can s i env c)]
    (pool : Pool Call Answer Err Cmd Reply σ) : (move : Move Cmd ε) →
    Decidable (pool.Next Start Can move)
  | .start cmd => inferInstanceAs (Decidable (Start pool.scene cmd))
  | .turn i env => NextCall.decidable Can pool (.turn i env)

/-- Where every command may start, the condition is the one on the calls. -/
theorem NextCall.next {pool : Pool Call Answer Err Cmd Reply σ}
    (any : ∀ s cmd, Start s cmd) (calls : pool.NextCall Can move) : pool.Next Start Can move := by
  cases move with
  | start cmd => exact any _ cmd
  | turn i env => exact calls

/-- A process in which nothing has run yet. -/
def idle (shared : σ) : Pool Call Answer Err Cmd Reply σ := { scene := { shared } }

/-! ## Runs -/

/-- Every task that still runs is `Fine`, and only tasks that have started are on record. -/
structure Manned (Fine : Scene Call Answer Err Cmd Reply σ → Nat → Prog Call Answer Err Reply → Prop)
    (pool : Pool Call Answer Err Cmd Reply σ) : Prop where
  tasks : ∀ i p, pool.tasks[i]? = some (some p) → Fine pool.scene i p
  known : ∀ event ∈ pool.scene.history, event.task < pool.tasks.length

/-- A move of task `i` keeps the invariant and leaves the other tasks fine. -/
structure Kept (Inv : Scene Call Answer Err Cmd Reply σ → Prop)
    (Fine : Scene Call Answer Err Cmd Reply σ → Nat → Prog Call Answer Err Reply → Prop)
    (i : Nat) (s s' : Scene Call Answer Err Cmd Reply σ) : Prop where
  inv : Inv s'
  others : ∀ j p, i ≠ j → Fine s j p → Fine s' j p

/-- What has to be shown of single moves for an invariant of every run. -/
structure Rules (M : Machine Call Answer Err Cmd Reply σ ε)
    (Start : Scene Call Answer Err Cmd Reply σ → Cmd → Prop)
    (Can : Scene Call Answer Err Cmd Reply σ → Nat → ε → Call → Prop)
    (Inv : Scene Call Answer Err Cmd Reply σ → Prop)
    (Fine : Scene Call Answer Err Cmd Reply σ → Nat → Prog Call Answer Err Reply → Prop) :
    Prop where
  start : ∀ s n cmd, Inv s → Start s cmd → s.trace n = [] →
    Kept Inv Fine n s (s.log (.began n cmd) s.shared) ∧
      Fine (s.log (.began n cmd) s.shared) n (M.prog cmd)
  call : ∀ s i env c next, Inv s → Fine s i (.call c next) → Can s i env c →
    Kept Inv Fine i s (s.log (.called i c (M.exec env c s.shared).1) (M.exec env c s.shared).2) ∧
      Fine (s.log (.called i c (M.exec env c s.shared).1) (M.exec env c s.shared).2) i
        (next (M.exec env c s.shared).1)
  ret : ∀ s i a, Inv s → Fine s i (.ret a) →
    Kept Inv Fine i s (s.log (.returned i (.ok a)) s.shared)
  raise : ∀ s i e, Inv s → Fine s i (.raise e) →
    Kept Inv Fine i s (s.log (.returned i (.error e)) s.shared)

section Runs

variable {M : Machine Call Answer Err Cmd Reply σ ε}
  {Start : Scene Call Answer Err Cmd Reply σ → Cmd → Prop}
  {Can : Scene Call Answer Err Cmd Reply σ → Nat → ε → Call → Prop}
  {Inv : Scene Call Answer Err Cmd Reply σ → Prop}
  {Fine : Scene Call Answer Err Cmd Reply σ → Nat → Prog Call Answer Err Reply → Prop}
  {pool : Pool Call Answer Err Cmd Reply σ} {i : Nat}

section

variable (manned : pool.Manned Fine)

include manned

theorem Manned.trace_length : pool.scene.trace pool.tasks.length = [] := by
  refine List.eq_nil_iff_forall_not_mem.mpr fun event listed => ?_
  obtain ⟨logged, mine⟩ := Scene.mem_trace.mp listed
  have := manned.known event logged
  omega

theorem Manned.after (mine : event.task = i) (running : pool.tasks[i]? = some task)
    (kept : Kept Inv Fine i pool.scene (pool.scene.log event shared))
    (own : ∀ p, rest = some p → Fine (pool.scene.log event shared) i p) :
    Manned Fine { scene := pool.scene.log event shared, tasks := pool.tasks.set i rest } where
  tasks := by
    intro j p found
    rw [List.getElem?_set] at found
    by_cases same : i = j
    · grind
    · rw [if_neg same] at found
      exact kept.others j p same (manned.tasks j p found)
  known := by
    intro e listed
    rw [List.length_set]
    rcases List.mem_cons.mp listed with rfl | earlier
    · rw [mine]
      exact (List.getElem?_eq_some_iff.mp running).1
    · exact manned.known e earlier

theorem Manned.step_start (rules : Rules M Start Can Inv Fine) (inv : Inv pool.scene)
    (allowed : Start pool.scene cmd) :
    Inv (pool.step M (.start cmd)).scene ∧ (pool.step M (.start cmd)).Manned Fine := by
  obtain ⟨kept, fine⟩ := rules.start _ _ cmd inv allowed manned.trace_length
  refine ⟨kept.inv, ?_, ?_⟩
  · intro j p found
    rcases Nat.lt_or_ge j pool.tasks.length with old | fresh
    · have found' : pool.tasks[j]? = some (some p) := by
        rwa [step, List.getElem?_append_left old] at found
      exact kept.others j p (Nat.ne_of_gt old) (manned.tasks j p found')
    · rw [step, List.getElem?_append_right fresh] at found
      have last : j = pool.tasks.length := by
        by_contra other
        rw [List.getElem?_eq_none (by simp; omega)]
          at found
        nomatch found
      subst last
      rw [Nat.sub_self] at found
      obtain rfl := Option.some.inj (Option.some.inj found)
      exact fine
  · intro event listed
    simp only [step, List.length_append]
    rcases List.mem_cons.mp listed with rfl | earlier
    · exact Nat.lt_succ_self _
    · have := manned.known event earlier
      omega

theorem Manned.step_turn (rules : Rules M Start Can Inv Fine) (inv : Inv pool.scene)
    (allowed : pool.Next Start Can (.turn i env)) :
    Inv (pool.step M (.turn i env)).scene ∧ (pool.step M (.turn i env)).Manned Fine := by
  simp only [step]
  simp only [Next, NextCall] at allowed
  split
  · rename_i a found
    have kept := rules.ret _ i a inv (manned.tasks i _ found)
    exact ⟨kept.inv, manned.after rfl found kept nofun⟩
  · rename_i e found
    have kept := rules.raise _ i e inv (manned.tasks i _ found)
    exact ⟨kept.inv, manned.after rfl found kept nofun⟩
  · rename_i c next found
    rw [found] at allowed
    obtain ⟨kept, later⟩ := rules.call _ i env c next inv (manned.tasks i _ found) allowed
    refine ⟨kept.inv, manned.after rfl found kept ?_⟩
    rintro p ⟨⟩
    exact later
  · exact ⟨inv, manned⟩

end

/-- What single moves keep, every run whose moves meet the conditions keeps. -/
theorem Rules.run (rules : Rules M Start Can Inv Fine)
    (staged : Staged (step M) (Next Start Can) (idle shared) moves) (now : Inv { shared }) :
    Inv (Lib.run (step M) (idle shared) moves).scene ∧
      (Lib.run (step M) (idle shared) moves).Manned Fine := by
  refine staged.invariant (fun pool => Inv pool.scene ∧ pool.Manned Fine) ?_ ⟨now, ?_⟩
  · rintro pool move ⟨inv, manned⟩ allowed
    cases move with
    | start cmd => exact manned.step_start rules inv allowed
    | turn i env => exact manned.step_turn rules inv allowed
  · exact ⟨fun i p found => absurd found (by simp [idle]),
      fun event listed => absurd listed (by simp [idle])⟩

/-- What the invariant says of the next call of a task that is fine, every call of such a
run meets. -/
theorem Rules.run_calls (rules : Rules M Start Can Inv Fine)
    (good : ∀ s i env c next, Inv s → Fine s i (.call c next) → Can s i env c → Good s i env c)
    (staged : Staged (step M) (Next Start Can) (idle shared) moves) (now : Inv { shared }) :
    Staged (step M) (NextCall Good) (idle shared) moves := by
  apply Staged.of_stages
  rintro ⟨pool, move⟩ listed
  obtain ⟨before, after, rfl, reached⟩ := mem_stages listed
  obtain ⟨early, can, -⟩ := staged_append.mp staged
  obtain ⟨inv, manned⟩ := rules.run early now
  rw [← reached] at manned inv can
  cases move with
  | start cmd => trivial
  | turn i env =>
    simp only [Next, NextCall] at can ⊢
    split
    · next c next found =>
      rw [found] at can
      exact good _ i env c next inv (manned.tasks i _ found) can
    · trivial

end Runs

/-- What every admissible call keeps of the shared state, whichever task makes it, a run
keeps. -/
theorem shared_invariant (J : σ → Prop)
    (calls : ∀ s i env c, J s.shared → Can s i env c → J (M.exec env c s.shared).2) {shared : σ}
    (staged : Staged (step M) (NextCall Can) (idle shared) moves) (now : J shared) :
    J (run (step M) (idle shared) moves).scene.shared := by
  have rules : Rules M (fun _ _ => True) Can (fun s => J s.shared) fun _ _ _ => True := by
    constructor
    · exact fun s n cmd held _ _ => ⟨⟨held, fun _ _ _ fine => fine⟩, trivial⟩
    · exact fun s i env c next held _ can =>
        ⟨⟨calls s i env c held can, fun _ _ _ fine => fine⟩, trivial⟩
    · exact fun s i a held _ => ⟨held, fun _ _ _ fine => fine⟩
    · exact fun s i e held _ => ⟨held, fun _ _ _ fine => fine⟩
  exact (rules.run (staged.mono fun _ _ can => can.next fun _ _ => trivial) now).1

end Pool

end Kergit.Lib
