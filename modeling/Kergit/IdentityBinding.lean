import Kergit.Engine

/-!
The user of a connection.

`attachConnection` answers with the session a connection has already, whoever asks: it is
AUTH that must not attach a connection to a second user.  It looks the connection up
before, and the guard against duplicates keeps every other AUTH of the connection out
between the look and the attachment.  So a connection is bound to the verified user of an
AUTH of its own, and stays bound to that user until it is removed.

The worker pushes what AUTH returns after the guard has been taken away.  If meanwhile the
connection is removed and another AUTH attaches it to another user, the update it pushes
is not for the user bound.  `Settled` is what must hold at an attachment, and
`identity_bound` that the three parts of the binding hold then.
-/

namespace Kergit

open Lib

open HubProg (session outside)

open ServerProg (hub desk)

open Snapshots (Sane)

open Server (exec after)

namespace IdentityBinding

section Grants

variable (k : GlobalConnId)

section

variable (t : ServerTranscript)

/-- The task has taken the mark that keeps other AUTHs of the connection out, and not given
it back. -/
def Holding : Prop :=
  ⟨.inr (.tryMarkExecuting k .auth), .ok true⟩ ∈ t ∧ ⟨.inr (.unmarkExecuting k .auth), .ok ()⟩ ∉ t

/-- The task has verified a token and found the connection bound to its user, or it has
attached the connection to the user. -/
def Granted (user : UserId) : Prop :=
  (∃ token, [⟨.inl (.session (.sessionOfConnection k)), .ok (.ok user)⟩,
    ⟨.inl (.outside (.authenticate token)), .ok (some user)⟩] <:+: t) ∨
    ∃ sessionId, ⟨.inl (.session (.attachConnection k user)), .ok (.ok sessionId)⟩ ∈ t

/-- No call has thrown. -/
def Unthrown : Prop := ∀ c e, ⟨c, .error e⟩ ∉ t

/-- No authentication has been pushed. -/
def Unpushed : Prop :=
  ∀ targets update, update.state = .authenticated →
    ⟨.inr (.push ⟨targets, .authUpdate update⟩), .ok ()⟩ ∉ t

end

/-- The worker is still to push that the connection is authenticated as the user. -/
structure Owes (s : EngineScene) (i : Nat) (user : UserId) : Prop where
  running : ¬ s.Returned i fun _ => true
  unthrown : Unthrown (s.transcript i)
  granted : Granted k (s.transcript i) user
  unpushed : Unpushed (s.transcript i)

/-- The condition on a call: when a connection is attached to a user, no other worker is
still to push that it is authenticated as somebody else. -/
def Settled (s : EngineScene) (i : Nat) (_env : ServerEnv) (c : ServerCall) : Prop :=
  ∀ user, c = .inl (.session (.attachConnection k user)) →
    ∀ j other, j ≠ i → Owes k s j other → other = user

/-- What every call is to do with the binding: a bound connection keeps its user or is
removed, a new user is the verified user of the caller's own AUTH of the connection, and
an authentication that is pushed is the bound user's. -/
structure Identified (s : EngineScene) (i : Nat) (env : ServerEnv) (c : ServerCall) : Prop where
  steady : ∀ user, s.shared.world.userOf k = some user →
    (exec env c s.shared).2.world.userOf k = some user ∨
      (exec env c s.shared).2.world.userOf k = none
  verified : ∀ user, s.shared.world.userOf k = none →
    (exec env c s.shared).2.world.userOf k = some user →
      ∃ token resumes, popped (s.transcript i) = some (.request (.authenticate k token resumes)) ∧
        ⟨.inl (.outside (.authenticate token)), .ok (some user)⟩ ∈ s.transcript i
  queued : ∀ targets update, c = .inr (.push ⟨targets, .authUpdate update⟩) → k ∈ targets →
    update.state = .authenticated → ∃ user, update.userId = some user ∧
      (s.shared.world.userOf k = none ∨ s.shared.world.userOf k = some user)

/-! ## The duty of a worker -/

/-- An attachment follows a look that found the connection unbound, under the mark and for
the verified user; the mark is taken once and given back once; an authentication that is
pushed has been granted. -/
def Duty (cmd : Command) (t : ServerTranscript) : ServerCall → Prop
  | .inl (.session (.attachConnection conn user)) => conn = k →
    (∃ token resumes missing, cmd = .request (.authenticate k token resumes) ∧
      [⟨.inl (.session (.sessionOfConnection k)), .ok (.error missing)⟩,
        ⟨.inl (.outside (.authenticate token)), .ok (some user)⟩] <+: t) ∧
      Holding k t ∧ ∀ other, ¬ Granted k t other
  | .inr (.tryMarkExecuting conn type) => conn = k → type = .auth →
    ⟨.inr (.tryMarkExecuting k .auth), .ok true⟩ ∉ t
  | .inr (.unmarkExecuting conn type) => conn = k → type = .auth → Holding k t
  | .inr (.push ⟨targets, .authUpdate update⟩) => k ∈ targets → update.state = .authenticated →
    ∃ user, update.userId = some user ∧ Granted k t user ∧ Unthrown t ∧ Unpushed t
  | _ => True

end Grants

variable {k : GlobalConnId} {mode : WriteMode} {cmd : Command} {t : ServerTranscript}

/-- The command is an AUTH of the connection. -/
abbrev Auths (k : GlobalConnId) (cmd : Command) : Prop :=
  ∃ token resumes, cmd = .request (.authenticate k token resumes)

theorem auth_of_envelope (known : cmd.envelope = some (k, .auth)) : Auths k cmd := by
  cases cmd with
  | request r =>
    cases r with
    | authenticate conn token resumes =>
      obtain ⟨rfl, -⟩ := Prod.mk.inj (Option.some.inj known)
      exact ⟨token, resumes, rfl⟩
    | _ => simp [Command.envelope] at known
  | _ => simp [Command.envelope] at known

theorem auth_of_attach (works : cmd.Works (.inl (.session (.attachConnection k user)))) :
    Auths k cmd := by
  rcases works with ⟨makes, -⟩ | ⟨_, _, -, is | is⟩ | ⟨_, is, -⟩
  · cases cmd with
    | request r =>
      obtain ⟨token, resumes, rfl⟩ := makes
      exact ⟨token, resumes, rfl⟩
    | sendMessage conn cmd | voiceActivity conn hubId channel muted deafened | writeNext =>
      exact absurd makes id
  · nomatch is
  · nomatch is
  · nomatch is

theorem auth_of_mark (works : cmd.Works (.inr c))
    (is : c = .tryMarkExecuting k .auth ∨ c = .unmarkExecuting k .auth) : Auths k cmd := by
  rcases works with ⟨makes, -⟩ | ⟨conn, type, known, marks⟩ | ⟨_, pushes, -⟩
  · rcases is with rfl | rfl <;> cases cmd <;> exact absurd makes id
  · grind [auth_of_envelope]
  · rcases is with rfl | rfl <;> nomatch pushes

theorem auth_of_push (here : k ∈ targets)
    (works : cmd.Works (.inr (.push ⟨targets, .authUpdate update⟩))) : Auths k cmd := by
  rcases works with ⟨-, silent⟩ | ⟨_, _, -, is | is⟩ | ⟨out, is, tells⟩
  · exact absurd rfl (silent _)
  · nomatch is
  · nomatch is
  · cases is
    obtain ⟨conn, token, resumes, rfl, only⟩ := tells
    obtain rfl : targets = [conn] := only
    obtain rfl := List.mem_singleton.mp here
    exact ⟨token, resumes, rfl⟩

/-- Only an AUTH of the connection has a duty. -/
theorem duty_of_works (other : ¬ Auths k cmd) (works : cmd.Works c) : Duty k cmd t c := by
  unfold Duty
  split
  · rintro rfl
    exact absurd (auth_of_attach works) other
  · rintro rfl rfl
    exact absurd (auth_of_mark works (.inl rfl)) other
  · rintro rfl rfl
    exact absurd (auth_of_mark works (.inr rfl)) other
  · intro here _
    exact absurd (auth_of_push here works) other
  · trivial

/-! ## AUTH does its duty -/

section Auth

variable {token : String} {resumes : Bool}

/-- An attachment comes right after the token was verified and the connection was not
found. -/
def AttachRule (k : GlobalConnId) (token : String) (u : HubTranscript) (c : HubCall) : Prop :=
  ∀ conn user, c = .session (.attachConnection conn user) →
    ∃ missing, u = [⟨.session (.sessionOfConnection k), .ok (.error missing)⟩,
      ⟨.outside (.authenticate token), .ok (some user)⟩]

/-- What an answer of AUTH announces: nothing, or what has been granted. -/
def Answered (k : GlobalConnId) (reply : Reply) (t : ServerTranscript) : Prop :=
  (∀ out ∈ reply.outgoing k, ∀ update, out.notice = .authUpdate update →
    update.state ≠ .authenticated) ∨
    ∃ user, reply = Handlers.authenticated k user ∧ Granted k t user ∧ Unthrown t

theorem answered_refused (refusal : VoiceState.Refusal) : Answered k (.refused refusal) t := by
  left
  intro out listed update is
  obtain rfl := List.mem_singleton.mp listed
  nomatch is

theorem answered_authFailed : Answered k .authFailed t := by
  left
  intro out listed update is
  obtain rfl := List.mem_singleton.mp listed
  cases is
  exact nofun

theorem unthrown_cons (unthrown : Unthrown t) : Unthrown (⟨c, .ok answer⟩ :: t) := by
  intro c' e listed
  rcases List.mem_cons.mp listed with same | earlier
  · cases same
  · exact unthrown c' e earlier

theorem Granted.cons (granted : Granted k t user) (entry : ServerEntry) :
    Granted k (entry :: t) user := by
  rcases granted with ⟨token, found⟩ | ⟨sessionId, listed⟩
  · exact .inl ⟨token, found.trans (List.suffix_cons entry t).isInfix⟩
  · exact .inr ⟨sessionId, List.mem_cons_of_mem _ listed⟩

theorem Answered.cons
    (answered : Answered k reply t) : Answered k reply (⟨c, .ok answer⟩ :: t) := by
  rcases answered with quiet | ⟨user, is, granted, unthrown⟩
  · exact .inl quiet
  · exact .inr ⟨user, is, granted.cons _, unthrown_cons unthrown⟩

/-- The transcript of a handler that has been marked. -/
def start (k : GlobalConnId) (token : String) (resumes : Bool) : ServerTranscript :=
  [⟨.inr (.tryMarkExecuting k .auth), .ok true⟩,
    ⟨.inr .popEvent, .ok (some (.request (.authenticate k token resumes)))⟩]

theorem start_unthrown : Unthrown (start k token resumes) := by
  exact nofun

theorem holding_start (u : HubTranscript) : Holding k (u.lift ++ start k token resumes) := by
  constructor
  · exact List.mem_append_right _ List.mem_cons_self
  · intro listed
    rcases List.mem_append.mp listed with here | there
    · exact Transcript.inr_not_mem_lift here
    · simp [start] at there

theorem authenticate_along :
    (Handlers.authenticate k token resumes).Along Sane (AttachRule k token)
      (fun
        | .ok reply => fun u => Answered k reply (u.lift ++ start k token resumes)
        | .error _ => fun _ => True) [] := by
  unfold Handlers.authenticate
  split
  · exact answered_authFailed
  · refine Prog.Along.bind_ask nofun (fun claims _ => ?_) fun e _ => trivial
    cases claims with
    | none => exact answered_authFailed
    | some user =>
      refine .bind_sure id nofun fun existing => ?_
      cases existing with
      | ok known =>
        dsimp only
        split
        · exact answered_authFailed
        · rename_i same
          rw [not_not] at same
          subst same
          refine .inr ⟨known, rfl, .inl ⟨token, ?_⟩, ?_⟩
          · exact ⟨[], start k token resumes, rfl⟩
          · exact unthrown_cons (unthrown_cons start_unthrown)
      | error missing =>
        refine .bind_sure id ?_ fun attached => ?_
        · rintro _ _ ⟨⟩
          exact ⟨missing, rfl⟩
        · cases attached with
          | error limit => exact answered_refused _
          | ok sessionId =>
            have unthrown : Unthrown (Transcript.lift
                [⟨.session (.attachConnection k user), .ok (.ok sessionId)⟩,
                  ⟨.session (.sessionOfConnection k), .ok (.error missing)⟩,
                  ⟨.outside (.authenticate token), .ok (some user)⟩] ++ start k token resumes) :=
              unthrown_cons (unthrown_cons (unthrown_cons start_unthrown))
            dsimp only
            split
            · refine Prog.Along.bind_ask nofun (fun _ _ => ?_) fun e _ => trivial
              refine Prog.Along.bind_ask nofun (fun _ _ => ?_) fun e _ => trivial
              refine .inr ⟨user, rfl, .inr ⟨sessionId, ?_⟩, unthrown_cons (unthrown_cons unthrown)⟩
              exact List.mem_of_getElem? (i := 2) rfl
            · refine Prog.Along.bind_ask nofun (fun _ _ => ?_) fun e _ => trivial
              refine .inr ⟨user, rfl, .inr ⟨sessionId, ?_⟩, unthrown_cons unthrown⟩
              exact List.mem_of_getElem? (i := 1) rfl

/-- No grant is made by looking only. -/
theorem not_granted_before : ¬ Granted k (Transcript.lift
      [⟨.session (.sessionOfConnection k), .ok (.error missing)⟩,
        ⟨.outside (.authenticate token), .ok (some user)⟩] ++ start k token resumes) other := by
  rintro (⟨_, found⟩ | ⟨_, listed⟩)
  · have listed := found.subset List.mem_cons_self
    simp [start] at listed
  · simp [start] at listed

/-- What an AUTH does before its pushes. -/
theorem handleEvent_along :
    (handleEvent mode (.request (.authenticate k token resumes))).Along SaneCall
      (Duty k (.request (.authenticate k token resumes)))
      (fun
        | .ok reply => fun t => Answered k reply t ∧ Unpushed t
        | .error _ => Holding k)
      [⟨.inr .popEvent, .ok (some (.request (.authenticate k token resumes)))⟩] := by
  have unpushed (u : HubTranscript) : Unpushed (u.lift ++ start k token resumes) := by
    intro targets update _ listed
    rcases List.mem_append.mp listed with here | there
    · exact Transcript.inr_not_mem_lift here
    · simp [start] at there
  refine .bind_sure id (fun _ _ => by simp) fun marked => ?_
  cases marked with
  | false =>
    refine ⟨.inl nofun, ?_⟩
    intro targets update _ listed
    simp at listed
  | true =>
    have dutiful : ∀ u c, AttachRule k token u c →
        Duty k (.request (.authenticate k token resumes)) (u.lift ++ start k token resumes)
          (.inl c) := by
      intro u c rule
      unfold Duty
      split
      · rename_i conn user is
        obtain rfl := Sum.inl.inj is
        rintro rfl
        obtain ⟨missing, rfl⟩ := rule conn user rfl
        refine ⟨⟨token, resumes, missing, rfl, ?_⟩, holding_start _, fun _ => not_granted_before⟩
        exact ⟨start conn token resumes, rfl⟩
      iterate 3
        rename_i is
        nomatch is
      · trivial
    refine Prog.Along.bind (authenticate_along.lift_after (fun _ _ sane => sane) dutiful) ?_ ?_
    · rintro reply _ ⟨u, rfl, answered⟩
      refine .bind_sure id (fun _ _ => holding_start u) fun _ => ?_
      refine ⟨Answered.cons answered, ?_⟩
      intro targets update state listed
      rcases List.mem_cons.mp listed with same | earlier
      · nomatch congrArg Sigma.fst same
      · exact unpushed u targets update state earlier
    · rintro e _ ⟨u, rfl, -⟩
      exact holding_start u

/-- An AUTH of the connection does its duty. -/
theorem auth_along :
    (perform mode (.request (.authenticate k token resumes))).Along SaneCall
      (Duty k (.request (.authenticate k token resumes))) (fun _ _ => True)
      [⟨.inr .popEvent, .ok (some (.request (.authenticate k token resumes)))⟩] := by
  apply handleEvent_along.bind_attempt
  intro result t held
  cases result with
  | error e => exact .bind_sure id (fun _ _ => held) fun _ => trivial
  | ok reply =>
    obtain ⟨quiet | ⟨user, rfl, granted, unthrown⟩, unpushed⟩ := held
    · have pushes : (Prog.forEach (fun out => desk (.push out)) (reply.outgoing k)).Along SaneCall
          (Duty k (.request (.authenticate k token resumes))) (fun _ _ => True) t := by
        apply (pushAll_along (K := fun _ => True) _ trivial).mono fun _ _ _ => trivial
        intro out t listed _
        unfold Duty
        grind
      exact pushes.bind (fun _ _ _ => trivial) fun _ _ _ => trivial
    · have owed : Duty k (.request (.authenticate k token resumes)) t
          (.inr (.push (.one k (.authUpdate { state := .authenticated, userId := some user })))) :=
        fun _ _ => ⟨user, rfl, granted, unthrown, unpushed⟩
      refine ⟨owed, ?_⟩
      rintro _ ⟨_, rfl⟩
      refine ⟨trivial, ?_⟩
      rintro _ ⟨_, rfl⟩
      trivial

end Auth

theorem keeps : (engineDiscipline (Duty k) (fun _ _ _ => True) mode).Keeps job := by
  apply engine_keeps
  intro cmd
  by_cases auth : Auths k cmd
  · obtain ⟨token, resumes, rfl⟩ := auth
    exact auth_along
  · apply Prog.Along.of_only (perform_works mode cmd) _ trivial
    intro t c works _
    exact ⟨duty_of_works auth works, fun _ _ => trivial⟩

/-! ## What a call does to the binding and to the marks -/

section Calls

variable {env : ServerEnv} {c : ServerCall} {w : Server}

theorem userOf_exec (k : GlobalConnId) (env : ServerEnv) (c : ServerCall) (w : Server) :
    (exec env c w).2.world.userOf k = w.world.userOf k ∨
    (∃ user, c = .inl (.session (.attachConnection k user)) ∧ w.world.userOf k = none ∧
      (exec env c w).2.world.userOf k = some user) ∨
    (exec env c w).2.world.userOf k = none := by
  cases c with
  | inr c =>
    left
    exact congrArg (fun world : World => world.userOf k) (exec_desk_world env c w)
  | inl c =>
    have moved : (World.exec (w.outlook env c) c w.world).2.userOf k = w.world.userOf k ∨ _ :=
      World.userOf_exec
    rcases moved with same | ⟨user, rfl, unbound, attached⟩ | ⟨-, removed⟩
    · exact .inl same
    · exact .inr (.inl ⟨user, rfl, unbound, attached⟩)
    · exact .inr (.inr removed)

/-- An attachment that succeeds on an unbound connection binds it. -/
theorem userOf_attach (unbound : w.world.userOf k = none)
    (attached : (exec env (.inl (.session (.attachConnection k user))) w).1 = .ok (.ok sessionId)) :
    (exec env (.inl (.session (.attachConnection k user))) w).2.world.userOf k = some user := by
  change (w.world.sessions.attachConnection k user).2.tables.connToSession.lookup k = some user
  have answer : (w.world.sessions.attachConnection k user).1 = .ok sessionId :=
    Except.ok.inj attached
  rcases w.world.sessions.attachConnection_cases k user with ⟨-, filed⟩ | ⟨-, -, opened⟩
  · obtain ⟨owner, bound⟩ := w.world.sessions.consistent.user_of_filed (filed sessionId answer)
    nomatch unbound.symm.trans bound
  · rw [opened]
    simp [SessionTables.openSession]

theorem userOf_sessionOfConnection
    (is : (exec env (.inl (.session (.sessionOfConnection k))) w).1 = .ok answer) :
    w.world.userOf k = answer.toOption := by
  have same : w.world.sessions.sessionOfConnection k = answer := Except.ok.inj is
  rw [← same, SessionManager.sessionOfConnection, World.userOf]
  split <;> simp_all [Except.toOption]

/-- The mark stays, unless it is given back. -/
theorem mem_executing_exec (other : c ≠ .inr (.unmarkExecuting k .auth))
    (marked : (k, .auth) ∈ w.executing) : (k, .auth) ∈ (exec env c w).2.executing := by
  cases c with
  | inl c => exact marked
  | inr c =>
    cases c with
    | tryMarkExecuting conn type =>
      simp only [exec, DeskCall.exec, Server.tryMarkExecuting]
      split
      · exact marked
      · exact List.mem_cons_of_mem _ marked
    | unmarkExecuting conn type =>
      apply (List.mem_erase_of_ne _).mpr marked
      rintro same
      cases same
      exact other rfl
    | popEvent =>
      simp only [exec, DeskCall.exec]
      split <;> exact marked
    | _ => exact marked

theorem mark_exec (taken : (exec env (.inr (.tryMarkExecuting k .auth)) w).1 = .ok true) :
    (k, .auth) ∉ w.executing ∧
      (k, .auth) ∈ (exec env (.inr (.tryMarkExecuting k .auth)) w).2.executing := by
  simp only [exec, DeskCall.exec, Server.tryMarkExecuting] at taken ⊢
  grind

end Calls

/-! ## The invariant -/

/-- At most one worker holds the mark; what it found unbound is unbound; and what a worker is
still to push is not about another user than the bound one. -/
structure Inv (k : GlobalConnId) (s : EngineScene) : Prop where
  marked : ∀ i, Holding k (s.transcript i) → (k, .auth) ∈ s.shared.executing
  alone : ∀ i j, Holding k (s.transcript i) → Holding k (s.transcript j) → i = j
  clear : ∀ i missing, Holding k (s.transcript i) →
    (s.transcript i).head? = some ⟨.inl (.session (.sessionOfConnection k)), .ok (.error missing)⟩ →
      s.shared.world.userOf k = none
  owed : ∀ i user, Owes k s i user →
    s.shared.world.userOf k = none ∨ s.shared.world.userOf k = some user

section Invariant

variable {s : EngineScene} {i : Nat} {job : Job} {env : ServerEnv} {c : ServerCall}

theorem inv_idle : Inv k { shared } where
  marked i holds := absurd holds.1 List.not_mem_nil
  alone i _ holds := absurd holds.1 List.not_mem_nil
  clear i _ holds := absurd holds.1 List.not_mem_nil
  owed i user owes := by
    rcases owes.granted with ⟨_, found⟩ | ⟨_, listed⟩
    · exact absurd (found.subset List.mem_cons_self) List.not_mem_nil
    · nomatch listed

/-- Starts and returns change nothing that matters here. -/
theorem Inv.of_quiet (inv : Inv k s) (quiet : event.Quiet) : Inv k (s.log event s.shared) where
  marked j := by
    rw [Scene.transcript_log_quiet quiet]
    exact inv.marked j
  alone j j' := by
    rw [Scene.transcript_log_quiet quiet, Scene.transcript_log_quiet quiet]
    exact inv.alone j j'
  clear j missing := by
    rw [Scene.transcript_log_quiet quiet]
    exact inv.clear j missing
  owed j user owes := by
    obtain ⟨runs, unthrown, granted, unpushed⟩ := owes
    rw [Scene.transcript_log_quiet quiet] at unthrown granted unpushed
    refine inv.owed j user ⟨fun returned => runs ?_, unthrown, granted, unpushed⟩
    obtain ⟨event, listed, is⟩ := returned
    exact ⟨event, List.mem_cons_of_mem _ listed, is⟩

/-- The duty behind a call, whichever job makes it. -/
theorem duty_of_rule (rule : Job.Rule (Duty k) job (s.transcript i) c) :
    ∃ cmd, Duty k cmd (s.transcript i) c ∧
      ∀ user, c = .inl (.session (.attachConnection k user)) → popped (s.transcript i) = some cmd := by
  cases job with
  | receive cmd =>
    obtain rfl : c = .inr (.pushEvent cmd) := rule
    exact ⟨.writeNext, trivial, nofun⟩
  | writeNext =>
    obtain rfl : c = .inr .writeNext := rule
    exact ⟨.writeNext, trivial, nofun⟩
  | work =>
    rcases rule with ⟨-, rfl⟩ | ⟨cmd, is, -, duty⟩
    · exact ⟨.writeNext, trivial, nofun⟩
    · exact ⟨cmd, duty, fun _ _ => is⟩

/-- Who holds the mark after a call: who held it and has not just given it back, or who has
just taken it. -/
theorem holding_log (holds : Holding k ((after s i env c).transcript j)) :
    (Holding k (s.transcript j) ∧ (j = i → c ≠ .inr (.unmarkExecuting k .auth))) ∨
      j = i ∧ c = .inr (.tryMarkExecuting k .auth) ∧
        (k, .auth) ∉ s.shared.executing ∧ (k, .auth) ∈ (exec env c s.shared).2.executing := by
  obtain ⟨marks, kept⟩ := holds
  rw [Scene.mem_transcript_log] at marks kept
  obtain ⟨notNow, before⟩ := not_or.mp kept
  rcases marks with ⟨rfl, taken⟩ | marks
  · obtain ⟨rfl, answer⟩ := Sigma.mk.inj taken
    exact .inr ⟨rfl, rfl, mark_exec (eq_of_heq answer).symm⟩
  · refine .inl ⟨⟨marks, before⟩, ?_⟩
    rintro rfl rfl
    exact notNow ⟨rfl, rfl⟩

section Call

variable {cmd : Command} (inv : Inv k s) (duty : Duty k cmd (s.transcript i) c)

include inv duty

theorem Inv.marked_call (holds : Holding k ((after s i env c).transcript j)) :
    (k, .auth) ∈ (exec env c s.shared).2.executing := by
  rcases holding_log holds with ⟨held, kept⟩ | ⟨-, -, -, now⟩
  · apply mem_executing_exec _ (inv.marked j held)
    intro gives
    subst gives
    have mine : Holding k (s.transcript i) := duty rfl rfl
    exact kept (inv.alone j i held mine) rfl
  · exact now

omit duty in
theorem Inv.alone_call (one : Holding k ((after s i env c).transcript j))
    (other : Holding k ((after s i env c).transcript j')) : j = j' := by
  rcases holding_log one with ⟨held, -⟩ | ⟨rfl, -, free, -⟩
  · rcases holding_log other with ⟨held', -⟩ | ⟨rfl, -, free, -⟩
    · exact inv.alone j j' held held'
    · exact absurd (inv.marked j held) free
  · rcases holding_log other with ⟨held', -⟩ | ⟨rfl, -, -, -⟩
    · exact absurd (inv.marked j' held') free
    · rfl

/-- An attachment finds the connection unbound. -/
theorem Inv.unbound_at_attach
    (is : c = .inl (.session (.attachConnection k user))) : s.shared.world.userOf k = none := by
  subst is
  obtain ⟨⟨token, resumes, missing, -, rest, shape⟩, holds, -⟩ := duty rfl
  apply inv.clear i missing holds
  rw [← shape]
  rfl

theorem Inv.clear_call (holds : Holding k ((after s i env c).transcript j))
    (latest : ((after s i env c).transcript j).head? =
        some ⟨.inl (.session (.sessionOfConnection k)), .ok (.error missing)⟩) :
    (exec env c s.shared).2.world.userOf k = none := by
  rw [Scene.transcript_log_called] at latest
  by_cases mine : i = j
  · rw [if_pos mine] at latest
    obtain ⟨rfl, answer⟩ := Sigma.mk.inj (Option.some.inj latest)
    exact userOf_sessionOfConnection (eq_of_heq answer)
  · rw [if_neg mine] at latest
    rcases holding_log holds with ⟨held, -⟩ | ⟨same, -⟩
    · have unbound := inv.clear j missing held latest
      rcases userOf_exec k env c s.shared with same | ⟨user, rfl, -⟩ | removed
      · rw [same]
        exact unbound
      · obtain ⟨-, holds', -⟩ := duty rfl
        exact absurd (inv.alone i j holds' held) mine
      · exact removed
    · exact absurd same.symm mine

omit inv duty in
/-- A worker that was still to push before the call. -/
theorem Owes.before (owes : Owes k (after s i env c) j user)
    (granted : Granted k (s.transcript j) user) : Owes k s j user := by
  obtain ⟨running, unthrown, -, unpushed⟩ := owes
  rw [Scene.returned_log_called] at running
  refine ⟨running, fun c e listed => unthrown c e ?_, granted,
    fun targets update state listed => unpushed targets update state ?_⟩
  · exact Scene.mem_transcript_log.mpr (.inr listed)
  · exact Scene.mem_transcript_log.mpr (.inr listed)

omit duty in
/-- Where the binding is after a call, for a worker that was still to push before it. -/
theorem Inv.owed_before (owes : Owes k s j user)
    (agrees : ∀ other, c = .inl (.session (.attachConnection k other)) → user = other) :
    (exec env c s.shared).2.world.userOf k = none ∨
      (exec env c s.shared).2.world.userOf k = some user := by
  rcases userOf_exec k env c s.shared with same | ⟨other, is, -, attached⟩ | removed
  · rw [same]
    exact inv.owed j user owes
  · rw [agrees other is]
    exact .inr attached
  · exact .inl removed

theorem Inv.owed_call (can : Settled k s i env c) (owes : Owes k (after s i env c) j user) :
    (exec env c s.shared).2.world.userOf k = none ∨
      (exec env c s.shared).2.world.userOf k = some user := by
  have granted := owes.granted
  rw [Scene.transcript_log_called] at granted
  by_cases mine : i = j
  · subst mine
    rw [if_pos rfl] at granted
    -- Granted earlier, the worker attaches nothing now; granted now, the answer is the binding.
    have earlier (before : Granted k (s.transcript i) user) :
        (exec env c s.shared).2.world.userOf k = none ∨
          (exec env c s.shared).2.world.userOf k = some user := by
      apply inv.owed_before (owes.before before)
      rintro other rfl
      obtain ⟨-, -, ungranted⟩ := duty rfl
      exact absurd before (ungranted user)
    rcases granted with ⟨token, found⟩ | ⟨sessionId, listed⟩
    · rcases List.infix_cons_iff.mp found with front | before
      · obtain ⟨same, -⟩ := List.cons_prefix_cons.mp front
        obtain ⟨rfl, answer⟩ := Sigma.mk.inj same
        have bound := userOf_sessionOfConnection (eq_of_heq answer).symm
        exact Or.inr bound
      · exact earlier (Or.inl ⟨token, before⟩)
    · rcases List.mem_cons.mp listed with same | before
      · obtain ⟨rfl, answer⟩ := Sigma.mk.inj same
        have unbound := inv.unbound_at_attach duty rfl
        exact Or.inr (userOf_attach unbound (eq_of_heq answer).symm)
      · exact earlier (Or.inr ⟨sessionId, before⟩)
  · rw [if_neg mine] at granted
    have before := owes.before granted
    apply inv.owed_before before
    intro other is
    exact can other is j user (Ne.symm mine) before

theorem Inv.call (can : Settled k s i env c) :
    Inv k (after s i env c) where
  marked _ := inv.marked_call duty
  alone _ _ := inv.alone_call
  clear _ _ := inv.clear_call duty
  owed _ _ := inv.owed_call duty can

end Call

end Invariant

theorem preserves (k : GlobalConnId) (mode : WriteMode) :
    (engineDiscipline (Duty k) (fun _ _ _ => True) mode).Preserves (fun _ _ => True) (Settled k)
      (Inv k) where
  start s i job inv _ _ := inv.of_quiet trivial
  call s i job env c inv _ _ rule can := by
    obtain ⟨cmd, duty, -⟩ := duty_of_rule rule
    exact inv.call duty can
  ends s i job result inv _ _ _ := inv.of_quiet trivial

/-- What the duty, the invariant and the condition say of a single call. -/
theorem identified (inv : Inv k s) (running : ¬ s.Returned i fun _ => true)
    (rule : Job.Rule (Duty k) job (s.transcript i) c) : Identified k s i env c := by
  obtain ⟨cmd, duty, attaches⟩ := duty_of_rule rule
  constructor
  · grind [userOf_exec]
  · intro user unbound bound
    rcases userOf_exec k env c s.shared with same | ⟨other, rfl, -, attached⟩ | removed
    · nomatch bound.symm.trans (same.trans unbound)
    · obtain rfl : user = other := Option.some.inj (bound.symm.trans attached)
      obtain ⟨⟨token, resumes, missing, rfl, front⟩, -, -⟩ := duty rfl
      refine ⟨token, resumes, attaches user rfl, ?_⟩
      exact front.subset (List.mem_cons_of_mem _ List.mem_cons_self)
    · nomatch bound.symm.trans removed
  · rintro targets update rfl here state
    obtain ⟨user, is, granted, unthrown, unpushed⟩ := duty here state
    exact ⟨user, is, inv.owed i user ⟨running, unthrown, granted, unpushed⟩⟩

/-- **The user of a connection.**  In every interleaving of the workers, if nobody attaches
the connection to a user while another worker is still to push that it is somebody else's:
every call keeps the user of a bound connection or removes it, a connection becomes bound
to the verified user of the caller's own AUTH of it, and every authentication that is
pushed for it is its bound user's. -/
theorem identity_bound (mode : WriteMode) (k : GlobalConnId) (shared : Server)
    (moves : List (Move Job ServerEnv))
    (settled : Staged (Pool.step (engine mode)) (Pool.NextCall (Settled k)) (Pool.idle shared)
      moves) :
    Staged (Pool.step (engine mode)) (Pool.NextCall (Identified k)) (Pool.idle shared) moves := by
  apply (engineDiscipline (Duty k) (fun _ _ _ => True) mode).run_calls (fun _ _ _ => keeps)
    (preserves k mode)
  · intro s i job env c inv _ running rule _
    exact identified inv running rule
  · exact settled.mono fun pool move can => can.next fun _ _ => trivial
  · exact inv_idle

/-- A call of the session manager. -/
def onSessions : (c : ServerCall) → Except Thrown (ServerCall.Answer c) → Bool
  | .inl (.session _), _ => true
  | _, _ => false

/-- Whoever else has called the session manager has returned. -/
def Sole (s : EngineScene) (i : Nat) (_env : ServerEnv) (_c : ServerCall) : Prop :=
  ∀ event ∈ s.history, event.calls event.task onSessions = true →
    event.task = i ∨ s.Returned event.task fun _ => true
deriving Decidable

/-- A worker that is still to push has called the session manager, so there is none. -/
theorem Sole.settled (sole : Sole s i env c) : Settled k s i env c := by
  intro user _ j other apart owes
  have called : s.Called j onSessions := by
    rcases owes.granted with ⟨_, found⟩ | ⟨_, listed⟩
    · have listed := found.subset List.mem_cons_self
      exact Scene.called_iff_transcript.mpr ⟨_, listed, rfl⟩
    · exact Scene.called_iff_transcript.mpr ⟨_, listed, rfl⟩
  obtain ⟨event, listed, calls⟩ := called
  have mine := Event.task_of_calls calls
  subst mine
  exact (sole event listed calls).elim (absurd · apart) (absurd · owes.running)

end IdentityBinding

/-! ## A connection with two users -/

namespace TwoUsers

open Lobby

def tablet : GlobalConnId := ⟨⟨"net"⟩, ⟨"tablet"⟩⟩

def signIn (token : String) : Command := .request (.authenticate tablet token false)

/-- The tokens are good. -/
def as (user : UserId) : ServerEnv := { claims := some user }

/-- The tablet signs in as alice, then as bob, and hangs up. -/
def received : List (Move Job ServerEnv) :=
  [.start (.receive (signIn "alice"))] ++ steps 0 2 ++
    [.start (.receive (signIn "bob"))] ++ steps 1 2 ++
    [.start (.receive (.request (.disconnect tablet)))] ++ steps 2 2

/-- Alice's AUTH is handled; the end of the connection is handled while bob's token is verified;
bob is attached; then the first worker pushes what alice's AUTH has returned. -/
def raced : List (Move Job ServerEnv) :=
  received ++
    [.start .work] ++ steps 3 2 ++ [.turn 3 (as alice)] ++ steps 3 4 ++
    [.start .work] ++ steps 4 2 ++ [.turn 4 (as bob)] ++
    [.start .work] ++ steps 5 6 ++ steps 4 2 ++ steps 3 1

def after (moves : List (Move Job ServerEnv)) : EnginePool :=
  run (Pool.step (engine .synchronous)) (Pool.idle Lobby.server) moves

/-- The tablet is bob's when it is announced as alice's. -/
theorem announced_as_another :
    (after raced).scene.shared.world.userOf tablet = some bob ∧
      (after raced).scene.shared.outgoing.head? =
        some (.one tablet (.authUpdate { state := .authenticated, userId := some alice })) := by
  decide

/-- The same, and a second AUTH as bob behind it; the commands are handled one by one. -/
def oneByOne : List (Move Job ServerEnv) :=
  received ++
    [.start (.receive (signIn "bob"))] ++ steps 3 2 ++
    [.start .work] ++ steps 4 2 ++ [.turn 4 (as alice)] ++ steps 4 7 ++
    [.start .work] ++ steps 5 2 ++ [.turn 5 (as bob)] ++ steps 5 4 ++
    [.start .work] ++ steps 6 8 ++
    [.start .work] ++ steps 7 2 ++ [.turn 7 (as bob)] ++ steps 7 7

theorem oneByOne_sole : Staged (Pool.step (engine .synchronous))
    (Pool.NextCall IdentityBinding.Sole) (Pool.idle Lobby.server) oneByOne := by
  decide +kernel

theorem identity_bound_one_by_one :
    (after oneByOne).scene.Idle ∧ (after oneByOne).scene.shared.world.userOf tablet = some bob ∧
      Staged (Pool.step (engine .synchronous))
        (Pool.NextCall (IdentityBinding.Identified tablet)) (Pool.idle Lobby.server)
        oneByOne := by
  refine ⟨by decide +kernel, by decide +kernel, ?_⟩
  apply IdentityBinding.identity_bound
  exact oneByOne_sole.mono fun pool move calls =>
    calls.mono fun _ _ _ sole => IdentityBinding.Sole.settled sole

end TwoUsers

end Kergit
