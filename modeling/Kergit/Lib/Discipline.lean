import Kergit.Lib.Programs

/-!
What a task's own past says about its next call.

Some facts about a program hold however its calls are answered and whatever other
tasks do in between: a handler that writes has looked something up before, a task that
has committed comes to the cache before it returns.  They are facts about the task's
`Transcript`, the list of its calls with their outcomes.  `Prog.Along` is the judgement
that every call of a program meets a rule on the transcript so far.

A `Discipline` gives every command such a rule, and `Discipline.run_inv` turns it into
an induction over the interleavings: an invariant of the scene has to be shown for
single calls only, made by any task, with the rule at hand.

- `Along.bind`, `Along.ask`, `Along.bind_attempt`, `Along.forEach`, `Along.collect`: one
  rule per way of building a program.
- `Along.of_only`: programs whose calls need no past; `Along.and_only` adds such a rule
  to another.
- `Prog.Always`: programs that keep the rule after any past, by the same rules.
-/

namespace Kergit.Lib

variable {Call : Type} {Answer : Call → Type} {Err Cmd Reply σ ε α β : Type}

/-- The calls of a task with their outcomes, latest first. -/
abbrev Transcript (Call : Type) (Answer : Call → Type) (Err : Type) : Type :=
  List ((c : Call) × Except Err (Answer c))

/-- The call of task `i` that the event is, if it is one. -/
def Event.callOf (i : Nat) :
    Event Call Answer Err Cmd Reply → Option ((c : Call) × Except Err (Answer c))
  | .called j c answer => if j = i then some ⟨c, answer⟩ else none
  | .began _ _ | .returned _ _ => none

/-- The event is no call. -/
def Event.Quiet : Event Call Answer Err Cmd Reply → Prop
  | .called _ _ _ => False
  | .began _ _ | .returned _ _ => True

namespace Scene

variable (s : Scene Call Answer Err Cmd Reply σ) (i : Nat)

/-- The calls task `i` has made. -/
def transcript : Transcript Call Answer Err := s.history.filterMap (Event.callOf i)

/-- What the calls of task `i` show, seen through `f`, latest first. -/
def gathered (f : ((c : Call) × Except Err (Answer c)) → Option β) : List β :=
  (s.transcript i).filterMap f

/-- A task has one command. -/
def Once : Prop :=
  ∀ i cmd cmd', .began i cmd ∈ s.history → .began i cmd' ∈ s.history → cmd = cmd'

/-- What has happened since task `i` made such a call for the last time. -/
def since (C : (c : Call) → Except Err (Answer c) → Bool) : List (Event Call Answer Err Cmd Reply) :=
  s.history.takeWhile fun event => !event.calls i C

variable {s i} {j : Nat} {c : Call} {answer : Except Err (Answer c)} {cmd : Cmd}
  {result : Except Err Reply} {shared : σ} {C : (c : Call) → Except Err (Answer c) → Bool}
  {event : Event Call Answer Err Cmd Reply}

@[simp, grind =] theorem transcript_log_called :
    (s.log (.called j c answer) shared).transcript i =
      if j = i then ⟨c, answer⟩ :: s.transcript i else s.transcript i := by
  simp only [transcript, log_history, List.filterMap_cons, Event.callOf]
  split <;> simp_all

theorem transcript_log_quiet (quiet : event.Quiet) :
    (s.log event shared).transcript i = s.transcript i := by
  cases event with
  | called => exact quiet.elim
  | began | returned => rfl

@[simp, grind =] theorem transcript_log_began :
    (s.log (.began j cmd) shared).transcript i = s.transcript i := by
  rfl

@[simp, grind =] theorem transcript_log_returned :
    (s.log (.returned j result) shared).transcript i = s.transcript i := by
  rfl

theorem mem_transcript_log : entry ∈ (s.log (.called j c answer) shared).transcript i ↔
      (j = i ∧ entry = ⟨c, answer⟩) ∨ entry ∈ s.transcript i := by
  rw [transcript_log_called]
  split
  · rename_i mine
    simp [mine]
  · rename_i other
    simp [other]

theorem mem_transcript :
    (⟨c, answer⟩ : (c : Call) × Except Err (Answer c)) ∈ s.transcript i ↔
      .called i c answer ∈ s.history := by
  simp [transcript]
  constructor
  · rintro ⟨event, listed, is⟩
    cases event with
    | called j c' answer' =>
      rw [Event.callOf] at is
      grind
    | began j cmd | returned j result => nomatch is
  · exact fun listed => ⟨_, listed, if_pos rfl⟩

section Gathered

variable {f : ((c : Call) × Except Err (Answer c)) → Option β} {b : β}

theorem mem_gathered_log :
    b ∈ (s.log (.called j c answer) shared).gathered i f ↔
      (j = i ∧ f ⟨c, answer⟩ = some b) ∨ b ∈ s.gathered i f := by
  simp [gathered]
  grind

@[simp] theorem gathered_log_began :
    (s.log (.began j cmd) shared).gathered i f = s.gathered i f := by
  rfl

@[simp] theorem gathered_log_returned :
    (s.log (.returned j result) shared).gathered i f = s.gathered i f := by
  rfl

end Gathered

@[simp] theorem began_mem_log_called :
    .began i cmd' ∈ (s.log (.called j c answer) shared).history ↔ .began i cmd' ∈ s.history := by
  simp

@[simp] theorem began_mem_log_returned :
    .began i cmd' ∈ (s.log (.returned j result) shared).history ↔ .began i cmd' ∈ s.history := by
  simp

@[simp] theorem returned_mem_log_began :
    .returned i result' ∈ (s.log (.began j cmd) shared).history ↔
      .returned i result' ∈ s.history := by
  simp

@[simp] theorem returned_mem_log_called :
    .returned i result' ∈ (s.log (.called j c answer) shared).history ↔
      .returned i result' ∈ s.history := by
  simp

section Once

theorem Once.start (once : s.Once) (fresh : s.trace j = []) : (s.log (.began j cmd) shared).Once := by
  intro i first second one other
  rcases List.mem_cons.mp one with same | earlier
  · rcases List.mem_cons.mp other with same' | earlier'
    · cases same
      cases same'
      rfl
    · cases same
      exact absurd earlier' (not_mem_of_fresh fresh rfl)
  · rcases List.mem_cons.mp other with same' | earlier'
    · cases same'
      exact absurd earlier (not_mem_of_fresh fresh rfl)
    · exact once i first second earlier earlier'

/-- An event that starts nothing. -/
theorem Once.log (once : s.Once) (quiet : ∀ i cmd, .began i cmd ≠ event) :
    (s.log event shared).Once := by
  intro i first second one other
  exact once i first second (List.mem_of_ne_of_mem (quiet i first) one)
    (List.mem_of_ne_of_mem (quiet i second) other)

end Once

section Runs

/-- Task `i` has begun with the command and not returned. -/
def Runs (s : Scene Call Answer Err Cmd Reply σ) (i : Nat) (cmd : Cmd) : Prop :=
  .began i cmd ∈ s.history ∧ ¬ s.Returned i fun _ => true

/-- Every task has returned. -/
def Idle (s : Scene Call Answer Err Cmd Reply σ) : Prop :=
  ∀ event ∈ s.history, s.Returned event.task fun _ => true
deriving Decidable

/-- At most one task runs. -/
def OneByOne (s : Scene Call Answer Err Cmd Reply σ) : Prop :=
  ∀ i j cmd cmd', s.Runs i cmd → s.Runs j cmd' → i = j

@[simp] theorem runs_log_called :
    (s.log (.called j c answer) shared).Runs i cmd' ↔ s.Runs i cmd' := by
  rw [Runs, Runs, began_mem_log_called, returned_log_called]

theorem runs_log_began (fresh : s.trace j = []) :
    (s.log (.began j cmd) shared).Runs i cmd' ↔ (i = j ∧ cmd' = cmd) ∨ s.Runs i cmd' := by
  simp [Runs]
  grind [not_returned_of_fresh]

theorem runs_log_returned :
    (s.log (.returned j result) shared).Runs i cmd' ↔ s.Runs i cmd' ∧ i ≠ j := by
  simp [Runs]
  grind

theorem Idle.not_runs (idle : s.Idle) : ¬ s.Runs i cmd :=
  fun runs => runs.2 (idle _ runs.1)

theorem OneByOne.start (idle : s.Idle) (fresh : s.trace j = []) :
    (s.log (.began j cmd) shared).OneByOne := by
  intro first second cmd₁ cmd₂ one other
  rcases (runs_log_began fresh).mp one with ⟨rfl, -⟩ | runs
  · rcases (runs_log_began fresh).mp other with ⟨rfl, -⟩ | runs
    · rfl
    · exact absurd runs idle.not_runs
  · exact absurd runs idle.not_runs

theorem OneByOne.call (single : s.OneByOne) : (s.log (.called j c answer) shared).OneByOne := by
  intro first second cmd₁ cmd₂ one other
  exact single first second cmd₁ cmd₂ (runs_log_called.mp one) (runs_log_called.mp other)

/-- When the one task returns, none is left. -/
theorem OneByOne.none (single : s.OneByOne) (runs : s.Runs j cmd) :
    ¬ (s.log (.returned j result) shared).Runs i cmd' := by
  intro left
  obtain ⟨runs', other⟩ := runs_log_returned.mp left
  exact other (single i j cmd' cmd runs' runs)

end Runs

theorem transcript_of_fresh (fresh : s.trace i = []) : s.transcript i = [] := by
  refine List.filterMap_eq_nil_iff.mpr fun event listed => ?_
  cases event with
  | called j c answer =>
    refine if_neg fun mine => ?_
    subst mine
    exact not_mem_of_fresh fresh rfl listed
  | began j cmd | returned j result => rfl

theorem gathered_of_fresh (fresh : s.trace i = []) : s.gathered i f = [] := by
  rw [gathered, transcript_of_fresh fresh]
  rfl

theorem called_iff_transcript :
    s.Called i C ↔ ∃ entry ∈ s.transcript i, C entry.1 entry.2 = true := by
  simp only [Called, transcript, List.mem_filterMap]
  constructor
  · rintro ⟨event, listed, calls⟩
    cases event with
    | called j c answer =>
      obtain ⟨mine, meets⟩ := Bool.and_eq_true_iff.mp calls
      exact ⟨⟨c, answer⟩, ⟨_, listed, if_pos (of_decide_eq_true mine)⟩, meets⟩
    | began j cmd | returned j result => exact absurd calls (by simp [Event.calls])
  · rintro ⟨entry, ⟨event, listed, is⟩, meets⟩
    cases event with
    | called j c answer =>
      rw [Event.callOf] at is
      split at is
      · rename_i mine
        cases is
        exact ⟨_, listed, Bool.and_eq_true_iff.mpr ⟨decide_eq_true mine, meets⟩⟩
      · cases is
    | began j cmd | returned j result => cases is

/-- What holds once such a call is made, and goes on holding, holds of a task that made one. -/
theorem Called.past {P : Transcript Call Answer Err → Prop} (called : s.Called i C)
    (step : ∀ c answer t, P t ∨ C c answer = true → P (⟨c, answer⟩ :: t)) : P (s.transcript i) := by
  obtain ⟨entry, listed, is⟩ := called_iff_transcript.mp called
  generalize s.transcript i = transcript at listed
  induction transcript with
  | nil => nomatch listed
  | cons last earlier ih =>
    rcases List.mem_cons.mp listed with rfl | before
    · exact step _ _ _ (.inr is)
    · exact step _ _ _ (.inl (ih before))

/-- A task with a transcript has left a trace. -/
theorem exists_of_transcript_ne_nil (called : s.transcript i ≠ []) :
    ∃ event ∈ s.history, event.task = i := by
  by_contra none
  refine called (transcript_of_fresh (List.eq_nil_iff_forall_not_mem.mpr fun event listed => ?_))
  obtain ⟨logged, mine⟩ := mem_trace.mp listed
  exact none ⟨event, logged, mine⟩

theorem Others.transcript (others : Others i s s') : s'.transcript i = s.transcript i := by
  have own : ∀ s : Scene Call Answer Err Cmd Reply σ,
      s.transcript i = (s.trace i).filterMap (Event.callOf i) := by
    intro s
    rw [Scene.trace, List.filterMap_filter]
    refine List.filterMap_congr fun event _ => ?_
    cases event with
    | called j c answer =>
      by_cases mine : j = i
      · simp [mine]
      · simp [Event.callOf, mine]
    | began j cmd | returned j result => exact (ite_self _).symm
  rw [own, own, others.trace]

theorem mem_since_log : event ∈ (s.log (.called j c answer) shared).since i C ↔
    ¬ (j = i ∧ C c answer = true) ∧ (event = .called j c answer ∨ event ∈ s.since i C) := by
  simp only [since, log_history, List.takeWhile_cons, Event.calls]
  grind

theorem mem_since_log_quiet (quiet : event.Quiet) (listed : earlier ∈ s.since i C) :
    earlier ∈ (s.log event shared).since i C := by
  cases event with
  | called => exact quiet.elim
  | began | returned => exact List.mem_cons_of_mem _ listed

theorem mem_history_of_mem_since (listed : event ∈ s.since i C) : event ∈ s.history :=
  List.takeWhile_sublist _ |>.mem listed

end Scene

/-! ## Programs along a transcript -/

/-- Every call of the program meets the rule on what was called before, whichever of
the possible answers came, and its end meets `Q`. -/
def Prog.Along (Possible : (c : Call) → Except Err (Answer c) → Prop)
    (Rule : Transcript Call Answer Err → Call → Prop)
    (Q : Except Err α → Transcript Call Answer Err → Prop) :
    Prog Call Answer Err α → Transcript Call Answer Err → Prop
  | .ret a, t => Q (.ok a) t
  | .raise e, t => Q (.error e) t
  | .call c next, t =>
    Rule t c ∧ ∀ answer, Possible c answer → (next answer).Along Possible Rule Q (⟨c, answer⟩ :: t)

/-- `K` whether or not there is an answer, and `Post` of an answer. -/
def Ending (K : Transcript Call Answer Err → Prop) (Post : α → Transcript Call Answer Err → Prop) :
    Except Err α → Transcript Call Answer Err → Prop
  | .ok a, t => K t ∧ Post a t
  | .error _, t => K t

theorem Ending.kept {r : Except Err α} (ending : Ending K Post r t) : K t := by
  cases r with
  | ok a => exact ending.1
  | error e => exact ending

namespace Prog.Along

variable {Possible : (c : Call) → Except Err (Answer c) → Prop}
  {Rule : Transcript Call Answer Err → Call → Prop}
  {Q Q' : Except Err α → Transcript Call Answer Err → Prop}
  {R : Except Err β → Transcript Call Answer Err → Prop}
  {p : Prog Call Answer Err α} {f : α → Prog Call Answer Err β} {t : Transcript Call Answer Err}

theorem mono (along : p.Along Possible Rule Q t) (weaker : ∀ r t, Q r t → Q' r t) :
    p.Along Possible Rule Q' t := by
  induction p generalizing t with
  | ret a | raise e => exact weaker _ t along
  | call c next ih => exact ⟨along.1, fun answer possible => ih answer (along.2 answer possible)⟩

theorem bind (along : p.Along Possible Rule Q t)
    (rest : ∀ a t, Q (.ok a) t → (f a).Along Possible Rule R t)
    (thrown : ∀ e t, Q (.error e) t → R (.error e) t) : (p >>= f).Along Possible Rule R t := by
  induction p generalizing t with
  | ret a => exact rest a t along
  | raise e => exact thrown e t along
  | call c next ih => exact ⟨along.1, fun answer possible => ih answer (along.2 answer possible)⟩

/-- One program after another, where nothing is said of the end. -/
theorem seq (along : p.Along Possible Rule Q t)
    (rest : ∀ a t, Q (.ok a) t → (f a).Along Possible Rule (fun _ _ => True) t) :
    (p >>= f).Along Possible Rule (fun _ _ => True) t :=
  along.bind rest fun _ _ _ => trivial

/-- The answer is made of the program's own; `K` holds whether or not there is one. -/
theorem finish {g : α → β} (along : p.Along Possible Rule Q t) (ends : ∀ r t, Q r t → K t) :
    (p >>= fun a => .ret (g a)).Along Possible Rule (fun _ => K) t :=
  along.bind (fun _ => ends _) fun _ => ends _

theorem bind_attempt {f : Except Err α → Prog Call Answer Err β}
    (along : p.Along Possible Rule Q t) (rest : ∀ r t, Q r t → (f r).Along Possible Rule R t) :
    (p.attempt >>= f).Along Possible Rule R t := by
  induction p generalizing t with
  | ret a | raise e => exact rest _ t along
  | call c next ih => exact ⟨along.1, fun answer possible => ih answer (along.2 answer possible)⟩

theorem ask {Q : Except Err (Answer c) → Transcript Call Answer Err → Prop}
    (rule : Rule t c) (ends : ∀ answer, Possible c answer → Q answer (⟨c, answer⟩ :: t)) :
    (ask c).Along Possible Rule Q t := by
  refine ⟨rule, fun answer possible => ?_⟩
  cases answer with
  | ok a | error e => exact ends _ possible

/-- One call, and what follows each answer. -/
theorem bind_ask {f : Answer c → Prog Call Answer Err β} (rule : Rule t c)
    (rest : ∀ a, Possible c (.ok a) → (f a).Along Possible Rule R (⟨c, .ok a⟩ :: t))
    (thrown : ∀ e, Possible c (.error e) → R (.error e) (⟨c, .error e⟩ :: t)) :
    (Prog.ask c >>= f).Along Possible Rule R t := by
  refine ⟨rule, fun answer possible => ?_⟩
  cases answer with
  | ok a => exact rest a possible
  | error e => exact thrown e possible

/-- One call that never throws, and what follows. -/
theorem bind_sure {f : Answer c → Prog Call Answer Err β}
    (sure : ∀ {r}, Possible c r → ∃ a, r = .ok a) (rule : Rule t c)
    (rest : ∀ a, (f a).Along Possible Rule R (⟨c, .ok a⟩ :: t)) :
    (Prog.ask c >>= f).Along Possible Rule R t := by
  refine ⟨rule, fun answer possible => ?_⟩
  obtain ⟨a, rfl⟩ := sure possible
  exact rest a

/-- Loops: `I` holds of what is still to do. -/
theorem forEach
    (I : List β → Transcript Call Answer Err → Prop) (X : Err → Transcript Call Answer Err → Prop)
    (each : ∀ b rest t, I (b :: rest) t → (body b).Along Possible Rule
      (fun | .ok _ => I rest | .error e => X e) t) (start : I items t) :
    (forEach body items).Along Possible Rule (fun | .ok _ => I [] | .error e => X e) t := by
  induction items generalizing t with
  | nil => exact start
  | cons b rest ih =>
    refine Along.bind (each b rest t start) (fun _ t held => ?_) fun e t thrown => thrown
    exact ih held

/-- Loops that collect: `I` holds of what is still to do and of what has been collected. -/
theorem collect
    (I : List α → Transcript Call Answer Err → Prop) (X : Err → Transcript Call Answer Err → Prop)
    (each : ∀ b as t, I as t → (body b).Along Possible Rule
      (fun | .ok a => I (as ++ [a]) | .error e => X e) t) (start : I [] t) :
    (collect body items).Along Possible Rule (fun | .ok as => I as | .error e => X e) t := by
  have general : ∀ done, I done t → (Prog.collect body items).Along Possible Rule
      (fun | .ok as => I (done ++ as) | .error e => X e) t := by
    clear start
    induction items generalizing t with
    | nil =>
      intro done held
      change I (done ++ []) t
      rwa [List.append_nil]
    | cons b rest ih =>
      intro done held
      refine Along.bind (each b done t held) (fun a t held => ?_) fun e t thrown => thrown
      refine Along.bind (ih (done ++ [a]) held) (fun as t held => ?_) fun e t thrown => thrown
      change I (done ++ a :: as) t
      rwa [List.append_cons]
  exact general [] start

/-- Calls that may be made at any time, as far as `K` goes. -/
theorem of_only (only : p.Only Own)
    (calls : ∀ t c, Own c → K t → Rule t c ∧ ∀ answer, Possible c answer → K (⟨c, answer⟩ :: t))
    (now : K t) : p.Along Possible Rule (fun _ => K) t := by
  induction p generalizing t with
  | ret a | raise e => exact now
  | call c next ih =>
    obtain ⟨rule, kept⟩ := calls t c only.1 now
    exact ⟨rule, fun answer possible => ih answer (only.2 answer) (kept answer possible)⟩

/-- A program that makes certain calls only keeps what its rule says of these. -/
theorem weaken (along : p.Along Possible Rule Q t) (only : p.Only Own)
    (weaker : ∀ t c, Own c → Rule t c → Rule' t c) : p.Along Possible Rule' Q t := by
  induction p generalizing t with
  | ret a | raise e => exact along
  | call c next ih =>
    exact ⟨weaker t c only.1 along.1,
      fun answer possible => ih answer (along.2 answer possible) (only.2 answer)⟩

theorem and_only (along : p.Along Possible Rule Q t) (only : p.Only Own) :
    p.Along Possible (fun t c => Own c ∧ Rule t c) Q t :=
  along.weaken only fun _ _ own rule => ⟨own, rule⟩

end Prog.Along

/-- The program keeps the rule whatever was called before. -/
def Prog.Always (Possible : (c : Call) → Except Err (Answer c) → Prop)
    (Rule : Transcript Call Answer Err → Call → Prop) (p : Prog Call Answer Err α) : Prop :=
  ∀ t, p.Along Possible Rule (fun _ _ => True) t

namespace Prog.Always

variable {Possible : (c : Call) → Except Err (Answer c) → Prop}
  {Rule : Transcript Call Answer Err → Call → Prop}
  {p : Prog Call Answer Err α} {f : α → Prog Call Answer Err β}

/-- A call that needs nothing on record. -/
theorem ask (free : ∀ {t}, Rule t c) : (ask c).Always Possible Rule :=
  fun _ => .ask free fun _ _ => trivial

theorem bind (first : p.Always Possible Rule) (rest : ∀ a, (f a).Always Possible Rule) :
    (p >>= f).Always Possible Rule :=
  fun t => (first t).bind (fun a t _ => rest a t) fun _ _ _ => trivial

theorem bind_attempt {f : Except Err α → Prog Call Answer Err β} (first : p.Always Possible Rule)
    (rest : ∀ r, (f r).Always Possible Rule) : (p.attempt >>= f).Always Possible Rule :=
  fun t => (first t).bind_attempt fun r t _ => rest r t

theorem bind_yields (first : p.Always Possible Rule) (yields : p.Yields Q)
    (rest : ∀ a, Q a → (f a).Always Possible Rule) : (p >>= f).Always Possible Rule := by
  intro t
  have along := first t
  clear first
  induction p generalizing t with
  | ret a => exact rest a yields t
  | raise e => trivial
  | call c next ih =>
    exact ⟨along.1, fun answer possible => ih answer (yields answer) _ (along.2 answer possible)⟩

theorem attempt (first : p.Always Possible Rule) : p.attempt.Always Possible Rule := by
  intro t
  have along := first t
  clear first
  induction p generalizing t with
  | ret a | raise e => trivial
  | call c next ih =>
    exact ⟨along.1, fun answer possible => ih answer _ (along.2 answer possible)⟩

theorem forEach
    (each : ∀ b, (body b).Always Possible Rule) : (forEach body items).Always Possible Rule := by
  induction items with
  | nil => exact fun t => trivial
  | cons b rest ih => exact bind (each b) fun _ => ih

theorem collect {body : β → Prog Call Answer Err α}
    (each : ∀ b, (body b).Always Possible Rule) : (collect body items).Always Possible Rule := by
  induction items with
  | nil => exact fun t => trivial
  | cons b rest ih => exact bind (each b) fun a => bind ih fun as t => trivial

end Prog.Always

/-- A program keeps the rules its parts keep. -/
theorem Prog.Composed.always {Part : ∀ ⦃β : Type⦄, Prog Call Answer Err β → Prop}
    {p : Prog Call Answer Err α} (composed : p.Composed Part Q)
    (parts : ∀ ⦃β⦄ (p : Prog Call Answer Err β), Part p → p.Always Possible Rule) :
    p.Always Possible Rule := by
  induction composed with
  | part is yields => exact parts _ is
  | pure holds | raise => exact fun _ => trivial
  | bind first rest ihFirst ihRest => exact ihFirst.bind_yields first.yields ihRest
  | attempt body ih => exact ih.attempt
  | collect each ih => exact .collect ih
  | forEach each ih => exact .forEach ih

/-! ## Runs -/

/-- A rule for every command: on its calls, and on how it may end. -/
structure Discipline (M : Machine Call Answer Err Cmd Reply σ ε) where
  Possible : (c : Call) → Except Err (Answer c) → Prop
  Rule : Cmd → Transcript Call Answer Err → Call → Prop
  End : Cmd → Except Err Reply → Transcript Call Answer Err → Prop
  possible : ∀ env c s, Possible c (M.exec env c s).1

namespace Discipline

variable {M : Machine Call Answer Err Cmd Reply σ ε} (D : Discipline M)

/-- The command's program keeps its rule. -/
def Keeps (cmd : Cmd) : Prop := (M.prog cmd).Along D.Possible (D.Rule cmd) (D.End cmd) []

/-- What task `i` has left to run keeps the rule of the command it began with. -/
structure Running (s : Scene Call Answer Err Cmd Reply σ) (i : Nat)
    (p : Prog Call Answer Err Reply) (cmd : Cmd) : Prop where
  began : .began i cmd ∈ s.history
  along : p.Along D.Possible (D.Rule cmd) (D.End cmd) (s.transcript i)
  running : ¬ s.Returned i fun _ => true

/-- The invariant is kept by every start, by every call that meets its rule, and by
every return. -/
structure Preserves (Start : Scene Call Answer Err Cmd Reply σ → Cmd → Prop)
    (Can : Scene Call Answer Err Cmd Reply σ → Nat → ε → Call → Prop)
    (Inv : Scene Call Answer Err Cmd Reply σ → Prop) : Prop where
  start : ∀ s i cmd, Inv s → Start s cmd → s.trace i = [] → Inv (s.log (.began i cmd) s.shared)
  call : ∀ s i cmd env c, Inv s → .began i cmd ∈ s.history → ¬ s.Returned i (fun _ => true) →
    D.Rule cmd (s.transcript i) c → Can s i env c →
      Inv (s.log (.called i c (M.exec env c s.shared).1) (M.exec env c s.shared).2)
  ends : ∀ s i cmd result, Inv s → .began i cmd ∈ s.history → ¬ s.Returned i (fun _ => true) →
    D.End cmd result (s.transcript i) → Inv (s.log (.returned i result) s.shared)

/-- What the rules say of a whole scene: a task has one command, each of its calls met the
rule on some of those it had made, and if it has returned, it met the end. -/
structure Abides (s : Scene Call Answer Err Cmd Reply σ) : Prop where
  once : s.Once
  calls : ∀ i cmd, .began i cmd ∈ s.history → ∀ entry ∈ s.transcript i,
    ∃ earlier, earlier ⊆ s.transcript i ∧ D.Rule cmd earlier entry.1
  ends : ∀ i result, .returned i result ∈ s.history →
    ∃ cmd, .began i cmd ∈ s.history ∧ D.End cmd result (s.transcript i)

section Abides

variable {D} {s : Scene Call Answer Err Cmd Reply σ} {n : Nat} {cmd : Cmd} {shared : σ}

theorem abides_idle : D.Abides { shared } where
  once := nofun
  calls := nofun
  ends := nofun

theorem Abides.ended (abides : D.Abides s)
    (began : .began n cmd ∈ s.history) (returned : .returned n result ∈ s.history) :
    D.End cmd result (s.transcript n) := by
  obtain ⟨cmd', began', ended⟩ := abides.ends n result returned
  rwa [abides.once n _ _ began began']

theorem Abides.start (abides : D.Abides s) (fresh : s.trace n = []) :
    D.Abides (s.log (.began n cmd) shared) where
  once := abides.once.start fresh
  calls i cmd' began entry listed := by
    rw [Scene.transcript_log_began] at listed ⊢
    rcases List.mem_cons.mp began with same | earlier
    · cases same
      rw [Scene.transcript_of_fresh fresh] at listed
      nomatch listed
    · exact abides.calls i cmd' earlier entry listed
  ends i result returned := by
    obtain ⟨cmd', began, ended⟩ := abides.ends i result (Scene.returned_mem_log_began.mp returned)
    exact ⟨cmd', List.mem_cons_of_mem _ began, ended⟩

theorem Abides.call (abides : D.Abides s)
    (began : .began n cmd ∈ s.history) (running : ¬ s.Returned n fun _ => true)
    (rule : D.Rule cmd (s.transcript n) c) : D.Abides (s.log (.called n c answer) shared) where
  once := abides.once.log nofun
  calls i cmd' began' entry listed := by
    have longer : s.transcript i ⊆ (s.log (.called n c answer) shared).transcript i :=
      fun _ earlier => Scene.mem_transcript_log.mpr (.inr earlier)
    rw [Scene.began_mem_log_called] at began'
    rcases Scene.mem_transcript_log.mp listed with ⟨rfl, rfl⟩ | earlier
    · obtain rfl := abides.once n _ _ began began'
      exact ⟨_, longer, rule⟩
    · obtain ⟨before, among, rule⟩ := abides.calls i cmd' began' entry earlier
      exact ⟨before, fun _ listed => longer (among listed), rule⟩
  ends i result returned := by
    rw [Scene.returned_mem_log_called] at returned
    have other : n ≠ i := by
      rintro rfl
      exact running ⟨_, returned, by simp [Event.returns]⟩
    rw [Scene.transcript_log_called, if_neg other]
    obtain ⟨cmd', began, ended⟩ := abides.ends i result returned
    exact ⟨cmd', List.mem_cons_of_mem _ began, ended⟩

theorem Abides.return (abides : D.Abides s)
    (began : .began n cmd ∈ s.history) (ended : D.End cmd result (s.transcript n)) :
    D.Abides (s.log (.returned n result) shared) where
  once := abides.once.log nofun
  calls := by simpa using abides.calls
  ends i result' returned := by
    rcases List.mem_cons.mp returned with same | earlier
    · cases same
      exact ⟨cmd, List.mem_cons_of_mem _ began, ended⟩
    · obtain ⟨cmd', began, ended⟩ := abides.ends i result' earlier
      exact ⟨cmd', List.mem_cons_of_mem _ began, ended⟩

end Abides

variable {D} {s : Scene Call Answer Err Cmd Reply σ} {i : Nat}
  {Start : Scene Call Answer Err Cmd Reply σ → Cmd → Prop}
  {Can : Scene Call Answer Err Cmd Reply σ → Nat → ε → Call → Prop}
  {Inv : Scene Call Answer Err Cmd Reply σ → Prop}

/-- A move of task `i` leaves the others as they are. -/
theorem kept (mine : event.task = i) (inv : Inv (s.log event shared)) :
    Pool.Kept Inv (fun s j p => ∃ cmd, D.Running s j p cmd) i s (s.log event shared) where
  inv := inv
  others := by
    rintro j p other ⟨cmd, runs⟩
    have differ : event.task ≠ j := by rwa [mine]
    have others : Scene.Others j s (s.log event shared) := .log _ differ shared
    refine ⟨cmd, others.grown _ runs.began, ?_,
      fun returned => runs.running (others.returned_iff.mp returned)⟩
    rw [others.transcript]
    exact runs.along

theorem Preserves.rules (preserves : D.Preserves Start Can Inv)
    (keeps : ∀ s cmd, Start s cmd → D.Keeps cmd) :
    Pool.Rules M Start Can Inv fun s j p => ∃ cmd, D.Running s j p cmd where
  start := by
    intro s n cmd inv allowed fresh
    refine ⟨kept rfl (preserves.start s n cmd inv allowed fresh), cmd, List.mem_cons_self, ?_, ?_⟩
    · rw [Scene.transcript_log_began, Scene.transcript_of_fresh fresh]
      exact keeps s cmd allowed
    · rw [Scene.returned_log_began]
      exact Scene.not_returned_of_fresh fresh
  call := by
    rintro s i env c next inv ⟨cmd, began, along, running⟩ can
    refine ⟨kept rfl (preserves.call s i cmd env c inv began running along.1 can), cmd,
      List.mem_cons_of_mem _ began, ?_, ?_⟩
    · rw [Scene.transcript_log_called, if_pos rfl]
      exact along.2 _ (D.possible env c s.shared)
    · rw [Scene.returned_log_called]
      exact running
  ret := by
    rintro s i a inv ⟨cmd, began, along, running⟩
    exact kept rfl (preserves.ends s i cmd _ inv began running along)
  raise := by
    rintro s i e inv ⟨cmd, began, along, running⟩
    exact kept rfl (preserves.ends s i cmd _ inv began running along)

/-- Where every command keeps its rule and the invariant is preserved, every run whose
moves meet the conditions keeps the invariant. -/
theorem run_inv (keeps : ∀ s cmd, Start s cmd → D.Keeps cmd) (preserves : D.Preserves Start Can Inv)
    (staged : Staged (Pool.step M) (Pool.Next Start Can) (Pool.idle shared) moves)
    (now : Inv { shared }) : Inv (run (Pool.step M) (Pool.idle shared) moves).scene :=
  ((preserves.rules keeps).run staged now).1

/-- What the rule, the invariant and the conditions say of a call, every call of such a run
meets. -/
theorem run_calls
    (keeps : ∀ s cmd, Start s cmd → D.Keeps cmd) (preserves : D.Preserves Start Can Inv)
    (good : ∀ s i cmd env c, Inv s → .began i cmd ∈ s.history → ¬ s.Returned i (fun _ => true) →
      D.Rule cmd (s.transcript i) c → Can s i env c → Good s i env c)
    (staged : Staged (Pool.step M) (Pool.Next Start Can) (Pool.idle shared) moves)
    (now : Inv { shared }) :
    Staged (Pool.step M) (Pool.NextCall Good) (Pool.idle shared) moves := by
  apply (preserves.rules keeps).run_calls _ staged now
  rintro s i env c next inv ⟨cmd, began, along, running⟩ can
  exact good s i cmd env c inv began running along.1 can

end Discipline

end Kergit.Lib
