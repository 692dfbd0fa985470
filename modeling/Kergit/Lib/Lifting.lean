import Kergit.Lib.Discipline

/-!
Programs inside larger ones.

A machine may know more calls than the programs it is given were written for.  `lift`
takes a program over calls of one kind as one over calls of either kind.  What such a
program does is seen on the calls of its own kind, the `firsts` of a transcript, and
it makes none of the `seconds`: `Along.lift` carries every fact about its transcript
over.
-/

namespace Kergit.Lib

variable {Call More : Type} {Answer : Call → Type} {Extra : More → Type} {Err α : Type}

/-- The answers to calls of either kind. -/
@[reducible] def Answers (Answer : Call → Type) (Extra : More → Type) : Call ⊕ More → Type
  | .inl c => Answer c
  | .inr d => Extra d

namespace Transcript

variable (t : Transcript (Call ⊕ More) (Answers Answer Extra) Err)

/-- The calls of the first kind. -/
def firsts : Transcript Call Answer Err :=
  t.filterMap fun
    | ⟨.inl c, answer⟩ => some ⟨c, answer⟩
    | ⟨.inr _, _⟩ => none

/-- The calls of the second kind. -/
def seconds : Transcript More Extra Err :=
  t.filterMap fun
    | ⟨.inl _, _⟩ => none
    | ⟨.inr d, answer⟩ => some ⟨d, answer⟩

variable {t} {c : Call} {d : More}

@[simp] theorem firsts_nil :
    firsts ([] : Transcript (Call ⊕ More) (Answers Answer Extra) Err) = [] := rfl

@[simp] theorem seconds_nil :
    seconds ([] : Transcript (Call ⊕ More) (Answers Answer Extra) Err) = [] := rfl

@[simp] theorem firsts_inl (answer : Except Err (Answer c)) :
    firsts (⟨.inl c, answer⟩ :: t) = ⟨c, answer⟩ :: t.firsts := rfl

@[simp] theorem firsts_inr (answer : Except Err (Extra d)) :
    firsts (⟨.inr d, answer⟩ :: t) = t.firsts := rfl

@[simp] theorem seconds_inl (answer : Except Err (Answer c)) :
    seconds (⟨.inl c, answer⟩ :: t) = t.seconds := rfl

@[simp] theorem seconds_inr (answer : Except Err (Extra d)) :
    seconds (⟨.inr d, answer⟩ :: t) = ⟨d, answer⟩ :: t.seconds := rfl

@[simp] theorem mem_firsts :
    (⟨c, answer⟩ : (c : Call) × Except Err (Answer c)) ∈ t.firsts ↔ ⟨.inl c, answer⟩ ∈ t := by
  induction t with
  | nil => simp
  | cons entry rest ih =>
    obtain ⟨call, found⟩ := entry
    cases call with
    | inl c' | inr d => simp [ih]

@[simp] theorem mem_seconds :
    (⟨d, answer⟩ : (d : More) × Except Err (Extra d)) ∈ t.seconds ↔ ⟨.inr d, answer⟩ ∈ t := by
  induction t with
  | nil => simp
  | cons entry rest ih =>
    obtain ⟨call, found⟩ := entry
    cases call with
    | inl c | inr d' => simp [ih]

/-- The transcript, on a machine that knows more calls. -/
def lift (u : Transcript Call Answer Err) : Transcript (Call ⊕ More) (Answers Answer Extra) Err :=
  u.map fun entry => ⟨.inl entry.1, entry.2⟩

@[simp] theorem lift_nil :
    (lift [] : Transcript (Call ⊕ More) (Answers Answer Extra) Err) = [] := rfl

@[simp] theorem lift_cons (entry : (c : Call) × Except Err (Answer c))
    (u : Transcript Call Answer Err) :
    (lift (entry :: u) : Transcript (Call ⊕ More) (Answers Answer Extra) Err) =
      ⟨.inl entry.1, entry.2⟩ :: lift u := rfl

theorem inr_not_mem_lift :
    (⟨.inr d, answer⟩ : (c : Call ⊕ More) × Except Err (Answers Answer Extra c)) ∉ lift u := by
  intro listed
  obtain ⟨entry, -, is⟩ := List.mem_map.mp listed
  exact absurd (congrArg Sigma.fst is) Sum.inl_ne_inr

end Transcript

namespace Prog

/-- The program, on a machine that knows more calls. -/
def lift : Prog Call Answer Err α → Prog (Call ⊕ More) (Answers Answer Extra) Err α
  | ret a => ret a
  | raise e => raise e
  | call c next => call (.inl c) fun answer => (next answer).lift

variable {Possible : (c : Call) → Except Err (Answer c) → Prop}
  {Rule : Transcript Call Answer Err → Call → Prop}
  {Q : Except Err α → Transcript Call Answer Err → Prop}
  {Wide : (c : Call ⊕ More) → Except Err (Answers Answer Extra c) → Prop}
  {Law : Transcript (Call ⊕ More) (Answers Answer Extra) Err → Call ⊕ More → Prop}
  {p : Prog Call Answer Err α} {t : Transcript (Call ⊕ More) (Answers Answer Extra) Err}

/-- A program makes the calls of its own kind only. -/
theorem Only.lift {Wide : Call ⊕ More → Prop} (only : p.Only P) (own : ∀ c, P c → Wide (.inl c)) :
    (p.lift : Prog (Call ⊕ More) (Answers Answer Extra) Err α).Only Wide := by
  induction p with
  | ret a | raise e => trivial
  | call c next ih => exact ⟨own c only.1, fun answer => ih answer (only.2 answer)⟩

theorem Yields.lift (yields : p.Yields Y) :
    (p.lift : Prog (Call ⊕ More) (Answers Answer Extra) Err α).Yields Y := by
  induction p with
  | ret a => exact yields
  | raise e => trivial
  | call c next ih => exact fun answer => ih answer (yields answer)

/-- What a program does among calls of its own kind, it does among all of them. -/
theorem Along.lift (along : p.Along Possible Rule Q t.firsts)
    (possible : ∀ c answer, Wide (.inl c) answer → Possible c answer)
    (rule : ∀ t c, Rule t.firsts c → Law t (.inl c)) :
    p.lift.Along Wide Law (fun r t' => Q r t'.firsts ∧ t'.seconds = t.seconds) t := by
  induction p generalizing t with
  | ret a | raise e => exact ⟨along, rfl⟩
  | call c next ih =>
    refine ⟨rule t c along.1, fun answer wide => ?_⟩
    exact @ih answer (⟨.inl c, answer⟩ :: t) (along.2 answer (possible c answer wide))

/-- The same with all that was called before at hand. -/
theorem Along.lift_after (along : p.Along Possible Rule Q u)
    (possible : ∀ c answer, Wide (.inl c) answer → Possible c answer)
    (rule : ∀ u c, Rule u c → Law (u.lift ++ t) (.inl c)) :
    p.lift.Along Wide Law (fun r t' => ∃ u, t' = u.lift ++ t ∧ Q r u) (u.lift ++ t) := by
  induction p generalizing u with
  | ret a | raise e => exact ⟨u, rfl, along⟩
  | call c next ih =>
    refine ⟨rule u c along.1, fun answer wide => ?_⟩
    exact ih answer (along.2 answer (possible c answer wide))

end Prog

end Kergit.Lib
