import Kergit.Footprint

/-!
A connection that is gone is forgotten.

A `DisconnectionEvent` is handled by whichever worker takes it, next to the handlers
of the connection's own commands.  `AUTH` verifies the token first and attaches the
connection later, and every subscribing handler checks the session first and
subscribes later, so the clean-up can pass between the check and the act; what is
attached or subscribed afterwards stays for good.

`GhostSessions.OnTime` rules out exactly such a late call: an attachment after the
clean-up has looked the session up and not found it, or has removed it, and a
subscription after the clean-up has come to the subscriptions or has passed them by.

- `Rule`: a handler subscribes connections that it was shown attached, and takes one off
  its session once it has looked that up.
- `tracked_call`: a subscribed connection is attached, or about to be cleared; once its
  session has been looked up for the last time, it is not attached again.
- `handlers_keep`: every handler keeps the rule.
- `no_ghost_sessions`: once the event has been handled, neither manager mentions the
  connection.
-/

namespace Kergit

open Lib

open HubProg (session subscription cache database outside)

namespace GhostSessions

open Snapshots (Sane exec_sane)

variable (conn : GlobalConnId)

/-- The request is the connection's `DisconnectionEvent`. -/
def ends : Request → Bool
  | .disconnect k => decide (k = conn)
  | _ => false

/-! The steps of the clean-up. -/

def looksUp : (c : HubCall) → Except Thrown c.Answer → Bool
  | .session (.sessionOfConnection k), _ => decide (k = conn)
  | _, _ => false

def removes : (c : HubCall) → Except Thrown c.Answer → Bool
  | .session (.removeConnection k), _ => decide (k = conn)
  | _, _ => false

def clears : (c : HubCall) → Except Thrown c.Answer → Bool
  | .subscription (.removeAllForConnection k), _ => decide (k = conn)
  | _, _ => false

/-- A handler of the connection's end has looked its session up. -/
def LookedUp (s : WorkerScene) : Prop :=
  s.Some fun i => s.Began i (ends conn) ∧ s.Called i (looksUp conn)
deriving Decidable

/-- The handler has taken the connection off the session manager, and comes to its
subscriptions next. -/
structure Clearing (s : WorkerScene) (i : Nat) : Prop where
  began : s.Began i (ends conn)
  removed : s.Called i (removes conn)
  next : ¬ s.Called i (clears conn)

instance (s : WorkerScene) (i : Nat) : Decidable (Clearing conn s i) :=
  decidable_of_iff (s.Began i (ends conn) ∧ s.Called i (removes conn) ∧ ¬ s.Called i (clears conn))
    ⟨fun ⟨began, removed, next⟩ => ⟨began, removed, next⟩,
      fun ⟨began, removed, next⟩ => ⟨began, removed, next⟩⟩

def attaches : HubCall → Bool
  | .session (.attachConnection k _) => decide (k = conn)
  | _ => false

def subscribes : HubCall → Bool
  | .subscription (.subscribeConnection k _) => decide (k = conn)
  | _ => false

/-- No late call: once the clean-up has looked the session up, the connection is
attached only if it still is, and subscribed only if the clean-up is still to come to
that. -/
def OnTime (s : WorkerScene) (_ : Nat) (_ : CallEnv) (c : HubCall) : Prop :=
  LookedUp conn s →
    (attaches conn c = true → s.shared.Attached conn) ∧
    (subscribes conn c = true → s.shared.Attached conn ∨ s.Some (Clearing conn s))
deriving Decidable

/-! ## The discipline -/

/-- The call showed the connection to be attached. -/
def shows : (c : HubCall) → Except Thrown c.Answer → Bool
  | .session (.sessionOfConnection k), .ok (.ok _) => decide (k = conn)
  | .session (.sessionIdOfConnection k), .ok (.ok _) => decide (k = conn)
  | .session (.getSessionConnections _), .ok conns => decide (conn ∈ conns)
  | _, _ => false

/-- The call found the connection without a session, or took it off its session. -/
def denies : (c : HubCall) → Except Thrown c.Answer → Bool
  | .session (.sessionOfConnection k), .ok (.error _) => decide (k = conn)
  | .session (.sessionIdOfConnection k), .ok (.error _) => decide (k = conn)
  | .session (.removeConnection k), _ => decide (k = conn)
  | _, _ => false

/-- Such a call is on record. -/
def Made (C : (c : HubCall) → Except Thrown c.Answer → Bool) (t : HubTranscript) : Prop :=
  ∃ entry ∈ t, C entry.1 entry.2 = true

/-- A task subscribes connections it was shown, and takes one off its session only for its
end, once it has looked the session up. -/
def Rule (request : Request) (t : HubTranscript) : HubCall → Prop
  | .subscription (.subscribeConnection k _) => Made (shows k) t
  | .session (.sessionIdOfConnection k) => request = .disconnect k → Made (looksUp k) t
  | .session (.removeConnection k) =>
    request = .disconnect k ∧ Made (looksUp k) t ∧ ¬ Made (clears k) t
  | _ => True

def discipline : Discipline workers where
  Possible := Sane
  Rule := Rule
  End := fun request _ t => ∀ k, request = .disconnect k →
    Made (denies k) t ∧ (Made (removes k) t → Made (clears k) t)
  possible := exec_sane

/-- What holds of the connection at any time. -/
structure Tracked (s : WorkerScene) : Prop extends discipline.Abides s where
  subscribed : ∀ topic, s.shared.Subscribed conn topic →
    s.shared.Attached conn ∨ ∃ i, Clearing conn s i
  shown : ∀ i, s.Called i (shows conn) → LookedUp conn s ∨ s.shared.Attached conn
  denied : ∀ i, s.Began i (GhostSessions.ends conn) → s.Called i (denies conn) →
    LookedUp conn s ∧ ¬ s.shared.Attached conn

variable {conn} {i : Nat} {s s' : WorkerScene} {env : CallEnv} {c : HubCall} {w : World}

theorem lookedUp_of (began : s.Began i (ends conn)) (looked : s.Called i (looksUp conn)) :
    LookedUp conn s := began.some ⟨began, looked⟩

theorem LookedUp.mono (lookedUp : LookedUp conn s)
    (grown : ∀ event ∈ s.history, event ∈ s'.history) : LookedUp conn s' := by
  obtain ⟨event, -, began, looked⟩ := lookedUp
  exact lookedUp_of (began.mono grown) (looked.mono grown)

/-! ## What one call does -/

theorem ends_eq_true (is : ends conn request = true) : request = .disconnect conn := by
  unfold ends at is
  split at is
  · rw [of_decide_eq_true is]
  · nomatch is

/-- A clean-up that is under way stays so, until its own next call. -/
theorem Clearing.log_called
    (clearing : Clearing conn s j) (other : c ≠ .subscription (.removeAllForConnection conn)) :
    Clearing conn (s.log (.called i c answer) w) j where
  began := by simpa using clearing.began
  removed := by
    rw [Scene.called_log_called]
    exact .inr clearing.removed
  next := by
    rw [Scene.called_log_called]
    rintro (⟨-, is⟩ | before)
    · unfold clears at is
      split at is
      · exact other (of_decide_eq_true is ▸ rfl)
      · nomatch is
    · exact clearing.next before

theorem attached_of_sessionId
    (answer : w.sessions.sessionIdOfConnection conn = .ok sid) : w.Attached conn :=
  w.sessions.consistent.user_of_filed (SessionManager.sessionIdOfConnection_ok.mp answer)

theorem attached_of_shows (is : shows conn c (World.exec env c w).1 = true) :
    (World.exec env c w).2.Attached conn := by
  generalize answered : (World.exec env c w).1 = answer at is
  unfold shows at is
  split at is
  · obtain rfl := of_decide_eq_true is
    exact ⟨_, SessionManager.sessionOfConnection_ok.mp (Except.ok.inj answered)⟩
  · obtain rfl := of_decide_eq_true is
    exact attached_of_sessionId (Except.ok.inj answered)
  · rename_i user conns
    refine ⟨user, SessionManager.sessionOfConnection_ok.mp ?_⟩
    cases answered
    exact SessionManager.mem_getSessionConnections.mp (of_decide_eq_true is)
  · nomatch is

theorem not_attached_of_denies (is : denies conn c (World.exec env c w).1 = true) :
    ¬ (World.exec env c w).2.Attached conn := by
  rintro ⟨user, known⟩
  generalize answered : (World.exec env c w).1 = answer at is
  unfold denies at is
  split at is
  · obtain rfl := of_decide_eq_true is
    nomatch answered.symm.trans (congrArg Except.ok (SessionManager.sessionOfConnection_ok.mpr known))
  · obtain rfl := of_decide_eq_true is
    obtain ⟨sid, filed, -⟩ := (w.sessions.consistent.conn_iff _ _).mp known
    nomatch answered.symm.trans (congrArg Except.ok (SessionManager.sessionIdOfConnection_ok.mpr filed))
  · rename_i k _
    obtain rfl := of_decide_eq_true is
    have gone : (w.sessions.removeConnection k).tables.connToSession.lookup k = none := by
      rw [SessionManager.connToSession_removeConnection, if_pos rfl]
    nomatch gone.symm.trans known
  · nomatch is

section Call

variable {request : Request} (inv : Tracked conn s) (began : .began i request ∈ s.history)
  (rule : Rule request (s.transcript i) c) (onTime : OnTime conn s i env c)

include began rule in
/-- Who takes the connection off is its end's handler, and has looked the session up. -/
theorem closes (removal : c = .session (.removeConnection conn)) :
    s.Began i (ends conn) ∧ s.Called i (looksUp conn) ∧ ¬ s.Called i (clears conn) := by
  subst removal
  obtain ⟨rfl, looked, next⟩ := rule
  refine ⟨Scene.began_iff.mpr ⟨_, began, decide_eq_true rfl⟩,
    Scene.called_iff_transcript.mpr looked, fun cleared => next ?_⟩
  exact Scene.called_iff_transcript.mp cleared

include inv began rule in
/-- Who finds the connection gone for its end has looked the session up. -/
theorem Tracked.looked_of_denies (ended : s.Began i (ends conn))
    (is : denies conn c answer = true) :
    looksUp conn c answer = true ∨ s.Called i (looksUp conn) := by
  unfold denies at is
  split at is
  · exact .inl is
  · obtain ⟨first, earlier, is'⟩ := Scene.began_iff.mp ended
    obtain rfl := inv.once i _ _ began earlier
    obtain rfl := ends_eq_true is'
    rw [of_decide_eq_true is] at rule
    exact .inr (Scene.called_iff_transcript.mpr (rule rfl))
  · rw [of_decide_eq_true is] at rule
    exact .inr (closes began rule rfl).2.1
  · nomatch is

include inv began rule onTime in
theorem tracked_call (running : ¬ s.Returned i fun _ => true) :
    Tracked conn (World.after s i env c) where
  toAbides := inv.call began running rule
  subscribed := by
    intro topic heard
    have before : s.shared.Attached conn ∨ ∃ j, Clearing conn s j := by
      rcases World.subscribed_exec heard with known | rfl
      · exact inv.subscribed topic known
      · rcases inv.shown i (Scene.called_iff_transcript.mpr rule) with looked | attached
        · rcases (onTime looked).2 (decide_eq_true rfl) with attached | ⟨event, -, clearing⟩
          · exact Or.inl attached
          · exact Or.inr ⟨_, clearing⟩
        · exact Or.inl attached
    by_cases cleared : c = .subscription (.removeAllForConnection conn)
    · subst cleared
      exact absurd rfl (SubscriptionManager.subscribed_removeAllForConnection.mp heard).2
    rcases before with attached | ⟨j, clearing⟩
    · by_cases removed : c = .session (.removeConnection conn)
      · obtain ⟨began, -, next⟩ := closes began rule removed
        subst removed
        refine Or.inr ⟨i, by simpa using began, ?_, ?_⟩
        · simp [removes]
        · simpa [clears] using next
      · exact Or.inl (World.attached_exec_of_ne removed attached)
    · exact Or.inr ⟨j, clearing.log_called cleared⟩
  shown := by
    intro j shown
    rcases Scene.called_log_called.mp shown with ⟨-, is⟩ | before
    · exact Or.inr (attached_of_shows is)
    rcases inv.shown j before with looked | attached
    · exact Or.inl (looked.mono fun _ listed => List.mem_cons_of_mem _ listed)
    · by_cases removed : c = .session (.removeConnection conn)
      · obtain ⟨began, looked, -⟩ := closes began rule removed
        exact Or.inl ((lookedUp_of began looked).mono fun _ listed => List.mem_cons_of_mem _ listed)
      · exact Or.inr (World.attached_exec_of_ne removed attached)
  denied := by
    intro j ended denied
    rw [Scene.began_log_called] at ended
    rcases Scene.called_log_called.mp denied with ⟨rfl, is⟩ | before
    · refine ⟨?_, not_attached_of_denies is⟩
      have looked : looksUp conn c (World.exec env c s.shared).1 = true ∨ s.Called i (looksUp conn) :=
        inv.looked_of_denies began rule ended is
      exact lookedUp_of (by simpa using ended) (by simpa using looked)
    · obtain ⟨looked, gone⟩ := inv.denied j ended before
      refine ⟨looked.mono fun _ listed => List.mem_cons_of_mem _ listed, fun attached => ?_⟩
      rcases World.attached_exec attached with before | ⟨user, rfl⟩
      · exact gone before
      · exact gone ((onTime looked).1 (decide_eq_true rfl))

end Call

/-- What starts and returns leave alone. -/
theorem Tracked.of_quiet (inv : Tracked conn s) (abides : discipline.Abides s')
    (shared : s'.shared = s.shared) (grown : ∀ event ∈ s.history, event ∈ s'.history)
    (called : ∀ i C, s'.Called i C ↔ s.Called i C)
    (began : ∀ i, s'.Began i (ends conn) → s'.Called i (denies conn) → s.Began i (ends conn)) :
    Tracked conn s' where
  toAbides := abides
  subscribed := by
    rw [shared]
    intro topic heard
    rcases inv.subscribed topic heard with attached | ⟨i, clearing⟩
    · exact .inl attached
    · exact .inr ⟨i, clearing.began.mono grown, (called i _).mpr clearing.removed,
        fun cleared => clearing.next ((called i _).mp cleared)⟩
  shown := by
    rw [shared]
    intro i shown
    exact (inv.shown i ((called i _).mp shown)).imp_left fun looked => looked.mono grown
  denied := by
    rw [shared]
    intro i ended denied
    obtain ⟨looked, gone⟩ := inv.denied i (began i ended denied) ((called i _).mp denied)
    exact ⟨looked.mono grown, gone⟩

theorem tracked_preserved :
    discipline.Preserves (fun _ _ => True) (OnTime conn) (Tracked conn) where
  start s i request inv _ fresh := by
    refine inv.of_quiet (inv.start fresh) rfl (fun _ listed => List.mem_cons_of_mem _ listed)
      (fun _ _ => Scene.called_log_began) fun j began denied => ?_
    rcases Scene.began_log_began.mp began with ⟨rfl, -⟩ | before
    · exact absurd (Scene.called_log_began.mp denied) (Scene.not_called_of_fresh fresh)
    · exact before
  call s i request env c inv began running rule onTime := tracked_call inv began rule onTime running
  ends s i request result inv began _ ended :=
    inv.of_quiet (inv.return began ended) rfl (fun _ listed => List.mem_cons_of_mem _ listed)
      (fun _ _ => Scene.called_log_returned) fun _ began _ => Scene.began_log_returned.mp began

/-! ## The handlers keep the rule -/

section Handlers

variable {α : Type} {p : HubProg α} {request : Request} {t : HubTranscript}
  {conns : List GlobalConnId} {k : GlobalConnId}

theorem Made.grown {C : (c : HubCall) → Except Thrown c.Answer → Bool} (made : Made C t)
    (entry : (c : HubCall) × Except Thrown c.Answer) : Made C (entry :: t) := by
  obtain ⟨first, listed, is⟩ := made
  exact ⟨first, List.mem_cons_of_mem _ listed, is⟩

/-- The task was shown the connections. -/
def Knows (conns : List GlobalConnId) (t : HubTranscript) : Prop := ∀ k ∈ conns, Made (shows k) t

/-- The call takes no connection off, and subscribes none but `conns`. -/
def Touches (conns : List GlobalConnId) (c : HubCall) : Prop :=
  (∀ k, c ≠ .session (.removeConnection k)) ∧
    ∀ k topic, c = .subscription (.subscribeConnection k topic) → k ∈ conns

theorem Knows.one (is : shows k c answer = true) : Knows [k] (⟨c, answer⟩ :: t) := by
  intro k' listed
  obtain rfl := List.mem_singleton.mp listed
  exact ⟨_, List.mem_cons_self, is⟩

theorem touches_apart (apart : c.Apart) : Touches conns c := by
  cases c with
  | session c | subscription c => exact apart.elim
  | cache c | database c | outside c => exact ⟨nofun, nofun⟩

theorem touches_reads (c : HubCall) (reads : c.Reads) : Touches conns c :=
  touches_apart reads.apart

theorem touches_plain (c : HubCall) (plain : c.Plain) : Touches conns c :=
  touches_reads c plain.reads

/-- What the request may do itself, where it subscribes nobody but `conns`. -/
theorem touches_makes (other : ∀ k, request ≠ .disconnect k) (makes : request.Makes c)
    (subscribes : ∀ k topic, request.Subscribes k topic → k ∈ conns) : Touches conns c := by
  refine ⟨?_, ?_⟩
  · rintro k rfl
    exact other k makes
  · rintro k topic rfl
    exact subscribes k topic makes

section Others

variable (other : ∀ k, request ≠ .disconnect k)

include other

/-- A program that subscribes nobody but connections it was shown. -/
theorem Knows.along (knows : Knows conns t) (touches : p.Only (Touches conns)) :
    p.Along Sane (Rule request) (fun _ => Knows conns) t := by
  refine .of_only touches (fun t c touches knows => ⟨?_, fun _ _ k listed =>
    (knows k listed).grown _⟩) knows
  unfold Rule
  split
  · exact knows _ (touches.2 _ _ rfl)
  · exact fun is => absurd is (other _)
  · exact absurd rfl (touches.1 _)
  · trivial

theorem Knows.keeps (knows : Knows conns t) (touches : p.Only (Touches conns)) :
    p.Along Sane (Rule request) (fun _ _ => True) t :=
  (knows.along other touches).mono fun _ _ _ => trivial

/-- The connections a handler subscribes are the user's, which it was shown, or its own. -/
theorem enterHub_along (knows : Knows [k] t) :
    (Handlers.enterHub k user hub).Along Sane (Rule request) (fun _ _ => True) t := by
  have owns : (Handlers.ownConnections k user).Along Sane (Rule request)
      (fun r t => ∀ conns, r = .ok conns → Knows conns t) t := by
    refine .bind_sure id trivial fun own => ?_
    split
    · rintro _ ⟨⟩ k' listed
      exact (knows k' listed).grown _
    · rintro _ ⟨⟩ k' listed
      exact ⟨_, List.mem_cons_self, decide_eq_true listed⟩
  refine .bind owns (fun conns t shown => ?_) fun _ _ _ => trivial
  refine Knows.keeps other (shown conns rfl) (.bind (.forEach fun k listed => ?_) fun _ => ?_)
  · refine .bind (.ask ⟨nofun, ?_⟩) fun _ => trivial
    rintro _ _ ⟨⟩
    exact listed
  · refine .bind (Handlers.buildStateSyncForRequestedHubs_only touches_reads ?_ ?_ user [hub])
      fun _ => trivial
    · exact fun _ => touches_apart trivial
    · exact fun _ => touches_apart trivial

theorem createHub_along :
    (Handlers.createHub k name).Along Sane (Rule request) (fun _ _ => True) t := by
  refine .bind_sure id trivial fun found => ?_
  cases found with
  | error e => trivial
  | ok user =>
    have knows : Knows [k] (⟨.session (.sessionOfConnection k), .ok (.ok user)⟩ :: t) :=
      .one (decide_eq_true rfl)
    cases Handlers.checkText "Hub name" 80 name with
    | error refusal => trivial
    | ok name =>
      refine .seq (knows.along other (Footprint.createHub_only touches_plain
        (touches_apart trivial)).attempt) fun created t knows => ?_
      split
      · split <;> trivial
      · trivial
      · rename_i hub
        refine .seq (knows.along other (Footprint.createChannel_only
          (fun _ => touches_apart trivial) (touches_apart trivial)).attempt) fun channel t knows => ?_
        exact .seq (enterHub_along other knows) fun _ _ _ => trivial

theorem becomeMember_along (knows : Knows [k] t) :
    (Handlers.becomeMember k user hub).Along Sane (Rule request) (fun _ _ => True) t := by
  refine .seq (knows.along other ((HubService.getHub_plain hub).mono touches_plain))
    fun found t knows => ?_
  cases found with
  | none => trivial
  | some row =>
    refine .seq (knows.along other
      (.attempt (.bind (.ask (touches_apart trivial)) fun _ => .ask (touches_apart trivial))))
      fun added t knows => ?_
    cases added with
    | error e => trivial
    | ok _ =>
      refine .seq (enterHub_along other knows) fun _ t _ => ?_
      exact .bind_ask trivial (fun _ _ => trivial) fun _ _ => trivial

theorem joinHubByInvite_along :
    (Handlers.joinHubByInvite k code).Along Sane (Rule request) (fun _ _ => True) t := by
  refine .bind_sure id trivial fun found => ?_
  cases found with
  | error e => trivial
  | ok user =>
    have knows : Knows [k] (⟨.session (.sessionOfConnection k), .ok (.ok user)⟩ :: t) :=
      .one (decide_eq_true rfl)
    refine .seq (knows.along other (.ask (touches_apart trivial)))
      fun invited t knows => ?_
    cases invited with
    | none => trivial
    | some hub =>
      refine .seq (knows.along other ((HubService.getMembershipRole_reads hub user).mono touches_reads))
        fun role t knows => ?_
      cases role with
      | none => exact becomeMember_along other knows
      | some role =>
        exact .seq (enterHub_along other knows) fun _ _ _ => trivial

end Others

/-- A request that subscribes its own connection, once it was shown it. -/
theorem own_along {c : SessionCall} {f : c.Answer → HubProg Reply}
    (makes : (session c >>= f).Only request.Makes) (other : ∀ k, request ≠ .disconnect k)
    (subscribes : ∀ k' topic, request.Subscribes k' topic → k' = k)
    (rule : Rule request t (.session c))
    (each : ∀ answer, shows k (.session c) (.ok answer) = true ∨ ∃ reply, f answer = .ret reply) :
    (session c >>= f).Along Sane (Rule request) (fun _ _ => True) t := by
  refine .bind_sure id rule fun answer => ?_
  rcases each answer with shown | ⟨reply, is⟩
  · refine Knows.keeps other (.one shown) ?_
    have rest : (f answer).Only request.Makes := makes.2 (.ok answer)
    refine rest.mono fun _ makes => touches_makes other makes fun k' topic is => ?_
    exact List.mem_singleton.mpr (subscribes k' topic is)
  · rw [is]
    trivial

theorem selectActiveChannel_along {cursor : Option Nat}
    : (Handlers.selectActiveChannel k hub channel cursor latestLimit).Along Sane
      (Rule (.selectActiveChannel k hub channel cursor latestLimit)) (fun _ _ => True) t := by
  have makes : (Handlers.selectActiveChannel k hub channel cursor latestLimit).Only _ :=
    Request.prog_makes (.selectActiveChannel k hub channel cursor latestLimit)
  unfold Handlers.selectActiveChannel at makes ⊢
  split
  · trivial
  · rename_i named
    rw [if_neg named] at makes
    refine own_along makes nofun (fun _ _ is => is.1) trivial fun answer => ?_
    cases answer with
    | error e => exact .inr ⟨_, rfl⟩
    | ok user => exact .inl (decide_eq_true rfl)

theorem bootstrap_along {user : UserId} : (Handlers.bootstrap k user).Along Sane
    (Rule (.bootstrap k user)) (fun _ _ => True) t := by
  have makes : (Handlers.bootstrap k user).Only _ := Request.prog_makes (.bootstrap k user)
  unfold Handlers.bootstrap at makes ⊢
  split
  · trivial
  · rename_i named
    rw [if_neg named] at makes
    refine own_along makes nofun (fun _ _ is => is.1) nofun fun answer => ?_
    cases answer with
    | error e => exact .inr ⟨_, rfl⟩
    | ok user => exact .inl (decide_eq_true rfl)

/-! ### The end of a connection -/

/-- Past the clean-up, a program that needs nothing on record. -/
theorem cleared_along {p : HubProg Reply} (free : p.Only fun c => ∀ t, Rule (.disconnect conn) t c)
    (denied : Made (denies conn) t) (cleared : Made (clears conn) t) :
    p.Along Sane (Rule (.disconnect conn)) (discipline.End (.disconnect conn)) t := by
  refine (Prog.Along.of_only free (K := fun t => Made (denies conn) t ∧ Made (clears conn) t)
    (fun t c free kept => ⟨free t, fun _ _ => ⟨kept.1.grown _, kept.2.grown _⟩⟩)
    ⟨denied, cleared⟩).mono ?_
  rintro _ _ ⟨denied, cleared⟩ _ ⟨⟩
  exact ⟨denied, fun _ => cleared⟩

theorem closeConnection_along {user : UserId} (looked : Made (looksUp conn) t)
    (next : ¬ Made (clears conn) t) : (Handlers.closeConnection conn user).Along Sane
      (Rule (.disconnect conn)) (discipline.End (.disconnect conn)) t := by
  refine .bind_sure id trivial fun topics => ?_
  refine .bind_sure id ⟨rfl, looked.grown _, by simpa [Made, clears] using next⟩ fun _ => ?_
  refine .bind_sure id trivial fun _ => cleared_along ?_ (by simp [Made, denies])
    (by simp [Made, clears])
  refine .bind (.ask fun _ => trivial) fun others => ?_
  cases others with
  | true => trivial
  | false =>
    refine .bind (.ask fun _ => trivial) fun _ => ?_
    refine .bind (.collect fun hub _ => ?_) fun _ => trivial
    exact .bind (.ask fun _ => trivial) fun _ => trivial

theorem disconnect_keeps : discipline.Keeps (.disconnect conn) := by
  refine .bind_sure id trivial fun found => ?_
  cases found with
  | error e =>
    rintro _ ⟨⟩
    exact ⟨by simp [Made, denies], by simp [Made, removes]⟩
  | ok user =>
    refine .bind_sure id (fun _ => by simp [Made, looksUp]) fun found => ?_
    cases found with
    | error e =>
      rintro _ ⟨⟩
      exact ⟨by simp [Made, denies], by simp [Made, removes]⟩
    | ok sid => exact closeConnection_along (by simp [Made, looksUp]) (by simp [Made, clears])

theorem handlers_keep (request : Request) : discipline.Keeps request := by
  by_cases other : ∀ k, request ≠ .disconnect k
  · have others {p : HubProg Reply} (along : p.Along Sane (Rule request) (fun _ _ => True) []) :
        p.Along Sane (Rule request) (discipline.End request) [] :=
      along.mono fun _ _ _ k is => absurd is (other k)
    cases request with
    | bootstrap k user => exact others bootstrap_along
    | selectActiveChannel k hub channel cursor latestLimit =>
      exact others selectActiveChannel_along
    | createHub k name => exact others (createHub_along other)
    | joinHubByInvite k code => exact others (joinHubByInvite_along other)
    | _ =>
      have nobody : Knows [] [] := nofun
      refine others (nobody.keeps other ?_)
      exact (Request.prog_makes _).mono fun _ makes =>
        touches_makes other makes fun _ _ is => absurd is id
  · push Not at other
    obtain ⟨k, rfl⟩ := other
    exact disconnect_keeps

end Handlers

/-- **No ghost sessions.**  A connection nobody knows yet, and any interleaving of any
handlers in which the connection is attached and subscribed on time: when its
`DisconnectionEvent` has been handled, neither manager mentions the connection. -/
theorem no_ghost_sessions (world : World) (conn : GlobalConnId)
    (moves : List (Move Request CallEnv))
    (unknown : ¬ world.sessions.Mentions conn ∧ ¬ world.subscriptions.Mentions conn)
    (onTime : Staged (Pool.step workers) (Pool.NextCall (OnTime conn)) (Pool.idle world) moves) :
    let s := (run (Pool.step workers) (Pool.idle world) moves).scene
    s.Some (fun i => s.Began i (ends conn)) →
    (∀ event ∈ s.history, s.Began event.task (ends conn) →
      s.Returned event.task fun _ => true) →
      ¬ s.shared.sessions.Mentions conn ∧ ¬ s.shared.subscriptions.Mentions conn := by
  intro s ended handled
  have start : Tracked conn { shared := world } :=
    { Discipline.abides_idle with
      subscribed := fun topic heard =>
        absurd (SubscriptionManager.mentions_iff.mpr ⟨topic, heard⟩) unknown.2
      shown := fun i shown => absurd shown (Scene.not_called_of_fresh rfl)
      denied := fun i began => absurd began (Scene.not_began_of_fresh rfl) }
  have inv : Tracked conn s := discipline.run_inv (fun _ request _ => handlers_keep request)
    tracked_preserved (onTime.mono fun _ _ calls => calls.next fun _ _ => trivial) start
  have past : ∀ i, s.Began i (ends conn) → s.Called i (denies conn) ∧ ¬ Clearing conn s i := by
    intro i began
    obtain ⟨event, listed, rfl⟩ := began.some (φ := fun j => j = i) rfl
    obtain ⟨result, returned, -⟩ := Scene.returned_iff.mp (handled event listed began)
    obtain ⟨request, earlier, is⟩ := Scene.began_iff.mp began
    obtain ⟨denied, cleared⟩ := inv.ended earlier returned conn (ends_eq_true is)
    refine ⟨Scene.called_iff_transcript.mpr denied, fun clearing => clearing.next ?_⟩
    exact Scene.called_iff_transcript.mpr (cleared (Scene.called_iff_transcript.mp clearing.removed))
  have gone : ¬ s.shared.Attached conn := by
    obtain ⟨event, -, began⟩ := ended
    exact (inv.denied _ began (past _ began).1).2
  refine ⟨fun mentioned => gone (SessionManager.mentions_iff.mp mentioned), fun mentioned => ?_⟩
  obtain ⟨topic, heard⟩ := SubscriptionManager.mentions_iff.mp mentioned
  rcases inv.subscribed topic heard with attached | ⟨i, clearing⟩
  · exact gone attached
  · exact (past i clearing.began).2 clearing

end GhostSessions

namespace Haunted

open Lobby (alice home phone turns)

/-- A process that knows nobody yet; alice owns a hub. -/
def world : World := { Lobby.world with sessions := .empty 5 }

/-- `phone` authenticates as alice, its end is handled while the token is verified, and
the bootstrap follows. -/
def moves : List (Move Request CallEnv) :=
  [.start (.authenticate phone "token" false), .turn 0 { claims := some alice },
    .start (.disconnect phone), .turn 1 {}, .turn 1 {},
    .turn 0 {}, .turn 0 {}, .turn 0 {}, .turn 0 {},
    .start (.bootstrap phone alice)] ++ turns 2 16

def after : WorkerPool := run (Pool.step workers) (Pool.idle world) moves

/-- Every handler has returned, the connection is gone, and both managers go on
counting it: one of alice's sessions, and a listener of the hub. -/
theorem ghost_stays :
    after.tasks = [none, none, none] ∧
      (after.scene.Some fun i => after.scene.Began i (GhostSessions.ends phone)) ∧
      after.scene.shared.sessions.Mentions phone ∧
      after.scene.shared.sessions.getUserSessionIds alice = [1] ∧
      after.scene.shared.subscriptions.Mentions phone := by
  refine ⟨rfl, by decide, SessionManager.mentions_iff.mpr ⟨alice, by decide⟩, by decide,
    SubscriptionManager.mentions_iff.mpr ⟨.hubTopic home, by decide⟩⟩

/-- The same handlers, the end handled last. -/
def inOrder : List (Move Request CallEnv) :=
  [.start (.authenticate phone "token" false), .turn 0 { claims := some alice },
    .turn 0 {}, .turn 0 {}, .turn 0 {}, .turn 0 {},
    .start (.bootstrap phone alice)] ++ turns 1 16 ++
    [.start (.disconnect phone)] ++ turns 2 12

def settled : WorkerPool := run (Pool.step workers) (Pool.idle world) inOrder

theorem phone_unknown : ¬ world.sessions.Mentions phone ∧ ¬ world.subscriptions.Mentions phone := by
  refine ⟨fun mentioned => ?_, fun mentioned => ?_⟩
  · have absent : ¬ world.Attached phone := by decide
    exact absent (SessionManager.mentions_iff.mp mentioned)
  · obtain ⟨topic, heard⟩ := SubscriptionManager.mentions_iff.mp mentioned
    exact SubscriptionManager.not_subscribed_empty heard

/-- The connection was attached and subscribed on the way, and is forgotten. -/
theorem no_ghost_sessions_settled :
    (settled.scene.Some fun i => settled.scene.Began i (GhostSessions.ends phone)) ∧
      ¬ settled.scene.shared.sessions.Mentions phone ∧
      ¬ settled.scene.shared.subscriptions.Mentions phone :=
  ⟨by decide, GhostSessions.no_ghost_sessions world phone inOrder phone_unknown (by decide)
    (by decide) (by decide)⟩

end Haunted

end Kergit
