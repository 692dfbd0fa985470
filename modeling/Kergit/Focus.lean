import Kergit.Footprint
import Kergit.LiveMessages

/-!
The focus of a connection.

A connection is to hear the messages of one channel: the one of its last ACTIVE_CHANNEL
that succeeded.  Only an ACTIVE_CHANNEL subscribes a connection to a channel, but it
does not take it off the channel it had selected before; and it subscribes before it
looks at the cursor and fetches, so a refusal at that point leaves the connection
subscribed.  Where none of this happens, and commands run one after the other, the
subscriptions follow the focus: `fan_out_follows_focus`.
-/

namespace Kergit

open Lib

open HubProg (session subscription outside)

open ServerProg (hub desk)

open Snapshots (Sane)

open LiveMessages (readBy readBy_eq_some appended TellsReaders select_along)

namespace Focus

/-! ## The focus -/

/-- What an ACTIVE_CHANNEL asks for. -/
structure Selection where
  hub : HubId
  channel : ChannelId
  cursor : Option Nat
deriving DecidableEq, Repr

section Focus

variable (k : GlobalConnId)

/-- The command is an ACTIVE_CHANNEL of the connection. -/
def chosen : Command → Option Selection
  | .request (.selectActiveChannel conn hub channel cursor _) =>
    if conn = k then some ⟨hub, channel, cursor⟩ else none
  | _ => none

/-- What task `i` began with, if it is an ACTIVE_CHANNEL of the connection. -/
def selection (i : Nat) : ServerEvent → Option Selection
  | .began j cmd => if j = i then chosen k cmd else none
  | _ => none

/-- The channel of the last ACTIVE_CHANNEL that succeeded. -/
def focus : List ServerEvent → Option (HubId × ChannelId)
  | [] => none
  | .returned i (.ok (.done _)) :: earlier =>
    match earlier.findSome? (selection k i) with
    | some selected => some (selected.hub, selected.channel)
    | none => focus earlier
  | _ :: earlier => focus earlier

end Focus

/-! ## The condition -/

/-- One command after the other. -/
def Start (s : ServerScene) (_cmd : Command) : Prop := s.Idle
deriving Decidable

/-- The topics a connection is subscribed to. -/
def topicsOf (w : World) (k : GlobalConnId) : List Topic :=
  Map.row w.subscriptions.tables.connToTopics k

/-- When an ACTIVE_CHANNEL subscribes the connection, it hears no other channel, and the
request does not bring the cursor zero; when it fetches, it can.  Neither a cursor nor a
fetch matters where the channel has the focus already. -/
def Leads (k : GlobalConnId) (s : ServerScene) (i : Nat) (env : ServerEnv) : ServerCall → Prop
  | .inl (.subscription (.subscribeConnection conn topic)) =>
    conn = k → topic.kind = .channel →
      (∀ other ∈ topicsOf s.shared.world k, other.kind = .channel → other = topic) ∧
      ∀ selected ∈ s.history.filterMap (selection k i), selected.cursor = some 0 →
        focus k s.history = some (selected.hub, selected.channel)
  | .inl (.outside (.fetchMessages _ _ limit)) =>
    ∀ selected ∈ s.history.filterMap (selection k i),
      env.readable = true ∧ 0 ≤ limit ∨
        focus k s.history = some (selected.hub, selected.channel)
  | _ => True

instance (k : GlobalConnId) (s : ServerScene) (i : Nat) (env : ServerEnv) (c : ServerCall) :
    Decidable (Leads k s i env c) := by
  unfold Leads
  split <;> infer_instance

/-! ## The focus of a history -/

section History

variable {k : GlobalConnId} {s : ServerScene} {i : Nat} {cmd : Command} {history : List ServerEvent}

theorem chosen_eq_some {selected : Selection} (is : chosen k cmd = some selected) :
    ∃ limit, cmd = .request
      (.selectActiveChannel k selected.hub selected.channel selected.cursor limit) := by
  unfold chosen at is
  grind

theorem chosen_select {hub : HubId} :
    chosen k (.request (.selectActiveChannel k hub channel cursor limit)) =
      some ⟨hub, channel, cursor⟩ := if_pos rfl

theorem mem_selections (once : s.Once) (began : .began i cmd ∈ s.history)
    (listed : selected ∈ s.history.filterMap (selection k i)) : chosen k cmd = some selected := by
  obtain ⟨event, logged, shown⟩ := List.mem_filterMap.mp listed
  cases event with
  | began j cmd' =>
    rw [selection] at shown
    split at shown
    · rename_i mine
      subst mine
      rwa [once j cmd cmd' began logged]
    · nomatch shown
  | called j c answer | returned j result => nomatch shown

theorem selection_mem {selected : Selection} (began : .began i cmd ∈ s.history)
    (is : chosen k cmd = some selected) : selected ∈ s.history.filterMap (selection k i) := by
  apply List.mem_filterMap.mpr
  refine ⟨_, began, ?_⟩
  rw [selection, if_pos rfl, is]

theorem findSome_selection (once : s.Once) (began : .began i cmd ∈ s.history) :
    s.history.findSome? (selection k i) = chosen k cmd := by
  cases found : s.history.findSome? (selection k i) with
  | none =>
    have nothing := List.findSome?_eq_none_iff.mp found _ began
    rw [selection, if_pos rfl] at nothing
    exact nothing.symm
  | some selected =>
    obtain ⟨event, logged, shown⟩ := List.exists_of_findSome?_eq_some found
    exact (mem_selections once began (List.mem_filterMap.mpr ⟨event, logged, shown⟩)).symm

/-- A return moves the focus to the channel selected, if it was. -/
theorem focus_done (once : s.Once) (began : .began i cmd ∈ s.history)
    (is : chosen k cmd = some selected) (out : List Outgoing) :
    focus k (.returned i (.ok (.done out)) :: s.history) =
      some (selected.hub, selected.channel) := by
  rw [focus, findSome_selection once began, is]

/-- Any other return leaves it where it is. -/
theorem focus_stays (once : s.Once) (began : .began i cmd ∈ s.history)
    (other : chosen k cmd = none ∨ ∀ out, result ≠ .ok (.done out)) :
    focus k (.returned i result :: s.history) = focus k s.history := by
  match result with
  | .ok (.done out) =>
    have unchosen := other.resolve_right fun differs => differs out rfl
    rw [focus, findSome_selection once began, unchosen]
  | .ok (.refused refusal) | .ok .authFailed | .error e => rfl

end History

/-! ## What an ACTIVE_CHANNEL does -/

section Select

/-- The task has subscribed the connection to the channel. -/
def Opened (k : GlobalConnId) (hub : HubId) (channel : ChannelId) (t : HubTranscript) : Prop :=
  ∃ added, ⟨.subscription (.subscribeConnection k (.channelTopic hub channel)), .ok added⟩ ∈ t

/-- The task has fetched messages in vain. -/
def Failed (t : HubTranscript) : Prop :=
  ∃ channel after limit answer, ⟨.outside (.fetchMessages channel after limit), answer⟩ ∈ t ∧
    ∀ messages, answer ≠ .ok (some messages)

/-- An ACTIVE_CHANNEL that succeeds has subscribed its connection; one that fails and has
subscribed it has failed by the cursor or by the fetch. -/
structure Settles (k : GlobalConnId) (hub : HubId) (channel : ChannelId) (cursor : Option Nat)
    (result : Except Thrown Reply) (t : HubTranscript) : Prop where
  opened : ∀ out, result = .ok (.done out) → Opened k hub channel t
  failed : (∀ out, result ≠ .ok (.done out)) → Opened k hub channel t →
    cursor = some 0 ∨ Failed t

variable {k : GlobalConnId} {hub : HubId} {channel : ChannelId} {cursor : Option Nat}
  {latestLimit : Nat} {t : HubTranscript}

theorem settles_done (opened : Opened k hub channel t) :
    Settles k hub channel cursor (.ok (.done out)) t :=
  ⟨fun _ _ => opened, fun differs => absurd rfl (differs out)⟩

theorem settles_failed (differs : ∀ out, result ≠ .ok (.done out))
    (failed : cursor = some 0 ∨ Failed t) : Settles k hub channel cursor result t :=
  ⟨fun out is => absurd is (differs out), fun _ _ => failed⟩

theorem settles_unopened {result : Except Thrown Reply} (differs : ∀ out, result ≠ .ok (.done out))
    (unopened : ¬ Opened k hub channel t) : Settles k hub channel cursor result t :=
  ⟨fun out is => absurd is (differs out), fun _ opened => absurd opened unopened⟩

theorem openChannel_settles (user : UserId) :
    (Handlers.openChannel k user hub channel cursor latestLimit).Along Sane (fun _ _ => True)
      (Settles k hub channel cursor) t := by
  refine bind_subscribe trivial fun added => ?_
  refine .bind_sure id trivial fun _ => ?_
  have opened : ∀ later : HubTranscript, Opened k hub channel (later ++
      ⟨.subscription (.subscribeConnection k (.channelTopic hub channel)), .ok added⟩ :: t) :=
    fun later => ⟨added, List.mem_append_right _ List.mem_cons_self⟩
  split
  · rename_i zero
    exact settles_failed nofun (.inl zero)
  · apply Prog.Along.bind_ask trivial
    · intro fetched _
      cases fetched with
      | none =>
        exact settles_failed nofun (.inr ⟨_, _, _, _, List.mem_cons_self, nofun⟩)
      | some messages =>
        dsimp only
        split
        · exact settles_done (opened [_, _])
        · split
          · exact settles_done (opened [_, _])
          · exact settles_done (opened [_, _])
    · intro e _
      exact settles_failed nofun (.inr ⟨_, _, _, _, List.mem_cons_self, nofun⟩)

theorem select_settles :
    (Handlers.selectActiveChannel k hub channel cursor latestLimit).Along Sane (fun _ _ => True)
      (Settles k hub channel cursor) [] := by
  refine select_along (K := fun t => ¬ Opened k hub channel t) ?_ settles_unopened
    (fun user _ => openChannel_settles user) fun ⟨_, listed⟩ => nomatch listed
  refine fun t c looks before => ⟨trivial, fun answer _ => ?_⟩
  rintro ⟨added, listed⟩
  rcases List.mem_cons.mp listed with same | earlier
  · cases same
    exact looks
  · exact before ⟨added, earlier⟩

end Select

/-! ## The rule of a command -/

def Law (cmd : Command) (t : ServerTranscript) (c : ServerCall) : Prop :=
  cmd.Makes c ∧ ∀ out, c = .inr (.push out) → TellsReaders cmd t out

def End (cmd : Command) (result : Except Thrown Reply) (t : ServerTranscript) : Prop :=
  ∀ conn hub channel cursor limit,
    cmd = .request (.selectActiveChannel conn hub channel cursor limit) →
      Settles conn hub channel cursor result t.firsts

def discipline (mode : WriteMode) : Discipline (server mode) where
  Possible := SaneCall
  Rule := Law
  End := End
  possible := exec_saneCall

section Keeps

variable {mode : WriteMode}

theorem select_keeps : (discipline mode).Keeps
      (.request (.selectActiveChannel conn hubId channel cursor latestLimit)) := by
  apply Prog.Along.and_only _ (Command.prog_makes mode _)
  apply serve_along (fun reply t => Settles conn hubId channel cursor (.ok reply) t.firsts)
    (hub_along select_settles fun _ _ _ => nofun)
  · exact fun reply t held => held.1
  · exact fun reply out t listed settles => ⟨fun _ _ => nofun, settles⟩
  · rintro reply t settles - _ _ _ _ _ ⟨⟩
    exact settles
  · rintro e t ⟨settles, -⟩ _ _ _ _ _ ⟨⟩
    exact settles

theorem send_keeps : (discipline mode).Keeps (.sendMessage conn cmd) := by
  refine (Prog.Along.weaken LiveMessages.send_keeps
    (Command.prog_makes mode (.sendMessage conn cmd)) ?_).mono
    fun _ _ _ => nofun
  rintro t c makes law
  refine ⟨makes, ?_⟩
  rintro out rfl
  exact law.2

/-- A command that neither selects a channel nor sends a message. -/
theorem plain_keeps {cmd : Command} (pushes : ∀ conn sent, cmd ≠ .sendMessage conn sent)
    (ends : ∀ k, chosen k cmd = none) : (discipline mode).Keeps cmd := by
  apply Prog.Along.mono (Q := fun _ _ => True)
  · apply Prog.Along.of_only (Command.prog_makes mode cmd) _ trivial
    exact fun t c makes _ => ⟨⟨makes, fun _ _ conn sent is => absurd is (pushes conn sent)⟩,
      fun _ _ => trivial⟩
  · rintro result t - conn hubId channel cursor limit rfl
    nomatch chosen_select.symm.trans (ends conn)

theorem keeps (s : ServerScene) (cmd : Command) (_starts : Start s cmd) :
    (discipline mode).Keeps cmd := by
  cases cmd with
  | sendMessage conn sent => exact send_keeps
  | voiceActivity conn hubId channel muted deafened | writeNext =>
    exact plain_keeps nofun fun _ => rfl
  | request r =>
    cases r with
    | selectActiveChannel conn hubId channel cursor limit => exact select_keeps
    | _ => exact plain_keeps nofun fun _ => rfl

end Keeps

/-! ## The invariant -/

section Invariant

/-- Task `i` runs an ACTIVE_CHANNEL of the connection. -/
def Selects (k : GlobalConnId) (s : ServerScene) (i : Nat) (selected : Selection) : Prop :=
  ∃ limit, s.Runs i
    (.request (.selectActiveChannel k selected.hub selected.channel selected.cursor limit))

structure Inv (k : GlobalConnId) (s : ServerScene) : Prop where
  once : s.Once
  single : s.OneByOne
  /-- What the connection hears has the focus, or is being selected. -/
  heard : ∀ hub channel, s.shared.world.Subscribed k (.channelTopic hub channel) →
    focus k s.history = some (hub, channel) ∨
      ∃ i cursor, Selects k s i ⟨hub, channel, cursor⟩ ∧
        Opened k hub channel (s.transcript i).firsts
  /-- While a channel is being selected, the connection hears no other. -/
  opened : ∀ i selected, Selects k s i selected →
    Opened k selected.hub selected.channel (s.transcript i).firsts →
    (∀ hub channel, s.shared.world.Subscribed k (.channelTopic hub channel) →
      hub = selected.hub ∧ channel = selected.channel) ∧
    (selected.cursor = some 0 → focus k s.history = some (selected.hub, selected.channel))
  failed : ∀ i selected, Selects k s i selected → Failed (s.transcript i).firsts →
    focus k s.history = some (selected.hub, selected.channel)
  read : ∀ i conn cmd, s.Runs i (.sendMessage conn cmd) → ∀ hub channel,
    ∀ conns ∈ s.gathered i (readBy (.channelTopic hub channel)), k ∈ conns →
      focus k s.history = some (hub, channel)
  told : ∀ later earlier i conn cmd conns hub channel msg,
    .began i (.sendMessage conn cmd) ∈ s.history →
    s.history =
      later ++ .called i (.inr (.push (appended conns hub channel msg))) (.ok ()) :: earlier →
    k ∈ conns → focus k earlier = some (hub, channel)

variable {k : GlobalConnId} {s : ServerScene} {n : Nat} {cmd : Command} {env : ServerEnv}

theorem not_selects_of_idle (idle : s.Idle) : ¬ Selects k s i selected :=
  fun ⟨_, runs⟩ => idle.not_runs runs

/-- When nothing runs, what the connection hears has the focus. -/
theorem Inv.focused (inv : Inv k s) (idle : s.Idle) {hub : HubId}
    (hears : s.shared.world.Subscribed k (.channelTopic hub channel)) :
    focus k s.history = some (hub, channel) := by
  rcases inv.heard hub channel hears with focused | ⟨i, cursor, selects, -⟩
  · exact focused
  · exact absurd selects (not_selects_of_idle idle)

theorem firsts_of_fresh (fresh : s.trace n = []) : (s.transcript n).firsts = [] := by
  rw [Scene.transcript_of_fresh fresh]
  rfl

theorem told_log {hub : HubId} (is : (s.log event shared).history =
      later ++ .called i (.inr (.push (appended conns hub channel msg))) (.ok ()) :: earlier) :
    (event = .called i (.inr (.push (appended conns hub channel msg))) (.ok ()) ∧
        s.history = earlier) ∨ ∃ rest, s.history =
        rest ++ .called i (.inr (.push (appended conns hub channel msg))) (.ok ()) :: earlier := by
  cases later with
  | nil => exact .inl (List.cons.inj is)
  | cons first rest => exact .inr ⟨rest, (List.cons.inj is).2⟩

theorem Inv.start (inv : Inv k s) (idle : s.Idle) (fresh : s.trace n = []) :
    Inv k (s.log (.began n cmd) s.shared) := by
  have starts : ∀ {i selected}, Selects k (s.log (.began n cmd) s.shared) i selected → i = n := by
    rintro i selected ⟨limit, runs⟩
    rcases (Scene.runs_log_began fresh).mp runs with ⟨same, -⟩ | before
    · exact same
    · exact absurd before idle.not_runs
  constructor
  case once => exact inv.once.start fresh
  case single => exact .start idle fresh
  case heard => exact fun hub channel hears => .inl (inv.focused idle hears)
  case opened =>
    intro i selected selects
    obtain rfl := starts selects
    rw [Scene.transcript_log_began, firsts_of_fresh fresh]
    rintro ⟨_, listed⟩
    cases listed
  case failed =>
    intro i selected selects
    obtain rfl := starts selects
    rw [Scene.transcript_log_began, firsts_of_fresh fresh]
    rintro ⟨_, _, _, _, listed, _⟩
    cases listed
  case read =>
    intro i conn sent runs hub channel conns
    rw [Scene.gathered_log_began]
    rcases (Scene.runs_log_began fresh).mp runs with ⟨rfl, -⟩ | before
    · rw [Scene.gathered_of_fresh fresh]
      simp
    · exact absurd before idle.not_runs
  case told =>
    intro later earlier i conn sent conns hub channel msg began is
    rcases told_log is with ⟨same, -⟩ | ⟨rest, before⟩
    · cases same
    · rcases List.mem_cons.mp began with same | began
      · obtain ⟨rfl, -⟩ := Event.began.inj same
        have called : .called i (.inr (.push (appended conns hub channel msg))) (.ok ()) ∈
            s.history := by simp [before]
        exact absurd called (Scene.not_mem_of_fresh fresh rfl)
      · exact inv.told rest earlier i conn sent conns hub channel msg began before

theorem Inv.ends {result : Except Thrown Reply} (inv : Inv k s) (runs : s.Runs n cmd)
    (ended : End cmd result (s.transcript n)) : Inv k (s.log (.returned n result) s.shared) := by
  have none : ∀ {i selected}, ¬ Selects k (s.log (.returned n result) s.shared) i selected :=
    fun ⟨_, left⟩ => inv.single.none runs left
  constructor
  case once => exact inv.once.log nofun
  case single => exact fun _ _ _ _ left => absurd left (inv.single.none runs)
  case heard =>
    intro hub channel hears
    refine .inl ?_
    cases is : chosen k cmd with
    | none =>
      rw [Scene.log_history, focus_stays inv.once runs.1 (.inl is)]
      rcases inv.heard hub channel hears with focused | ⟨i, cursor, ⟨limit, selects⟩, -⟩
      · exact focused
      · obtain rfl := inv.single i n _ _ selects runs
        obtain rfl := inv.once i _ _ selects.1 runs.1
        nomatch chosen_select.symm.trans is
    | some selected =>
      obtain ⟨limit, rfl⟩ := chosen_eq_some is
      have settles := ended _ _ _ _ _ rfl
      by_cases success : ∃ out, result = .ok (.done out)
      · obtain ⟨out, rfl⟩ := success
        rw [Scene.log_history, focus_done inv.once runs.1 is]
        obtain ⟨rfl, rfl⟩ :=
          (inv.opened n selected ⟨limit, runs⟩ (settles.opened out rfl)).1 hub channel hears
        rfl
      · have differs : ∀ out, result ≠ .ok (.done out) := fun out same => success ⟨out, same⟩
        rw [Scene.log_history, focus_stays inv.once runs.1 (.inr differs)]
        rcases inv.heard hub channel hears with focused | ⟨i, cursor, ⟨limit', selects⟩, opened⟩
        · exact focused
        · obtain rfl := inv.single i n _ _ selects runs
          cases inv.once i _ _ selects.1 runs.1
          rcases settles.failed differs opened with zero | failed
          · exact (inv.opened i selected ⟨limit, runs⟩ opened).2 zero
          · exact inv.failed i selected ⟨limit, runs⟩ failed
  case opened => exact fun i selected selects => absurd selects none
  case failed => exact fun i selected selects => absurd selects none
  case read => exact fun i conn sent left => absurd left (inv.single.none runs)
  case told =>
    intro later earlier i conn sent conns hub channel msg began is
    rcases told_log is with ⟨same, -⟩ | ⟨rest, before⟩
    · nomatch same
    · exact inv.told rest earlier i conn sent conns hub channel msg
        (Scene.began_mem_log_returned.mp began) before

/-! ### A call -/

variable {c : ServerCall}

theorem channelTopic_inj {hub hub' : HubId}
    (same : Topic.channelTopic hub channel = Topic.channelTopic hub' channel') :
    hub = hub' ∧ channel = channel' := by
  obtain ⟨hub⟩ := hub
  obtain ⟨channel⟩ := channel
  cases same
  exact ⟨rfl, rfl⟩

/-- Only an ACTIVE_CHANNEL subscribes its connection to a channel. -/
theorem selects_of_makes {hub : HubId} (makes : cmd.Makes
      (.inl (.subscription (.subscribeConnection k (.channelTopic hub channel))))) :
    ∃ cursor limit, cmd = .request (.selectActiveChannel k hub channel cursor limit) := by
  match cmd with
  | .request (.selectActiveChannel conn hub' channel' cursor limit) =>
    obtain ⟨rfl, same⟩ := makes
    obtain ⟨rfl, rfl⟩ := channelTopic_inj same
    exact ⟨cursor, limit, rfl⟩
  | .request (.bootstrap conn user) =>
    obtain ⟨-, hub', same⟩ := makes
    nomatch congrArg Topic.kind same
  | .request (.createHub conn name) | .request (.joinHubByInvite conn code) =>
    obtain ⟨hub', same⟩ := makes
    nomatch congrArg Topic.kind same

/-- A topic newly heard is one the call subscribes to. -/
theorem subscribed_call {s : Server} (hears : (Server.exec env c s).2.world.Subscribed k topic) :
    s.world.Subscribed k topic ∨ c = .inl (.subscription (.subscribeConnection k topic)) := by
  cases c with
  | inl c =>
    rcases World.subscribed_exec hears with before | rfl
    · exact .inl before
    · exact .inr rfl
  | inr c =>
    have same : (Server.exec env (.inr c) s).2.world = s.world := exec_desk_world env c s
    rw [same] at hears
    exact .inl hears

theorem mem_firsts_log {i : Nat}
    (listed : ⟨d, found⟩ ∈ ((s.log (.called n c answer) shared).transcript i).firsts) :
    (n = i ∧ (⟨.inl d, found⟩ : ServerEntry) = ⟨c, answer⟩) ∨
      ⟨d, found⟩ ∈ (s.transcript i).firsts := by
  rcases Scene.mem_transcript_log.mp (Transcript.mem_firsts.mp listed) with new | before
  · exact .inl new
  · exact .inr (Transcript.mem_firsts.mpr before)

/-- The task that calls is the one that runs. -/
theorem Inv.caller (inv : Inv k s) (runs : s.Runs n cmd) {selected : Selection}
    (selects : Selects k s i selected) : i = n ∧ chosen k cmd = some selected := by
  obtain ⟨limit, selects⟩ := selects
  obtain rfl := inv.single i n _ _ selects runs
  obtain rfl := inv.once i _ _ selects.1 runs.1
  exact ⟨rfl, chosen_select⟩

theorem opened_log {hub : HubId}
    (opened : Opened k hub channel ((s.log (.called n c answer) shared).transcript i).firsts) :
    (n = i ∧ c = .inl (.subscription (.subscribeConnection k (.channelTopic hub channel)))) ∨
      Opened k hub channel (s.transcript i).firsts := by
  obtain ⟨added, listed⟩ := opened
  rcases mem_firsts_log listed with ⟨mine, same⟩ | before
  · exact .inl ⟨mine, (Sigma.mk.inj same).1.symm⟩
  · exact .inr ⟨added, before⟩

theorem Inv.call (inv : Inv k s) (runs : s.Runs n cmd) (law : Law cmd (s.transcript n) c)
    (leads : Leads k s n env c) : Inv k (Server.after s n env c) := by
  have same : ∀ {i selected}, Selects k (Server.after s n env c) i selected → Selects k s i selected :=
    fun ⟨limit, selects⟩ => ⟨limit, Scene.runs_log_called.mp selects⟩
  constructor
  case once => exact inv.once.log nofun
  case single => exact inv.single.call
  case heard =>
    intro hub channel hears
    rcases subscribed_call hears with before | rfl
    · rcases inv.heard hub channel before with focused | ⟨i, cursor, ⟨limit, selects⟩, added, listed⟩
      · exact .inl focused
      · refine .inr ⟨i, cursor, ⟨limit, Scene.runs_log_called.mpr selects⟩, added, ?_⟩
        apply Transcript.mem_firsts.mpr
        exact Scene.mem_transcript_log.mpr (.inr (Transcript.mem_firsts.mp listed))
    · obtain ⟨cursor, limit, rfl⟩ := selects_of_makes law.1
      refine .inr ⟨n, cursor, ⟨limit, Scene.runs_log_called.mpr runs⟩,
        (s.shared.world.subscriptions.subscribeConnection k (.channelTopic hub channel)).1, ?_⟩
      apply Transcript.mem_firsts.mpr
      exact Scene.mem_transcript_log.mpr (.inl ⟨rfl, rfl⟩)
  case opened =>
    intro i selected selects opened
    obtain ⟨rfl, is⟩ := inv.caller runs (same selects)
    refine ⟨fun hub channel hears => ?_, fun zero => ?_⟩
    · obtain ⟨limit, rfl⟩ := chosen_eq_some is
      rcases subscribed_call hears with before | rfl
      · rcases opened_log opened with ⟨-, rfl⟩ | earlier
        · exact channelTopic_inj ((leads rfl rfl).1 _ before rfl)
        · exact (inv.opened i selected (same selects) earlier).1 hub channel before
      · obtain ⟨cursor, limit', asks⟩ := selects_of_makes law.1
        cases asks
        exact ⟨rfl, rfl⟩
    · rcases opened_log opened with ⟨-, rfl⟩ | earlier
      · exact (leads rfl rfl).2 selected (selection_mem runs.1 is) zero
      · exact (inv.opened i selected (same selects) earlier).2 zero
  case failed =>
    intro i selected selects failed
    obtain ⟨rfl, is⟩ := inv.caller runs (same selects)
    obtain ⟨channel, after, limit, answer, listed, vain⟩ := failed
    rcases mem_firsts_log listed with ⟨-, now⟩ | before
    · obtain ⟨rfl, found⟩ := Sigma.mk.inj now
      rcases leads selected (selection_mem runs.1 is) with ⟨readable, bound⟩ | focused
      · exfalso
        obtain rfl := eq_of_heq found
        cases after with
        | none | some seq => exact vain _ (congrArg Except.ok (if_pos ⟨readable, bound⟩))
      · exact focused
    · exact inv.failed i selected (same selects) ⟨channel, after, limit, answer, before, vain⟩
  case read =>
    intro i conn sent stays hub channel conns shown listens
    have sends := Scene.runs_log_called.mp stays
    rcases Scene.mem_gathered_log.mp shown with ⟨rfl, reads⟩ | before
    · obtain ⟨rfl, answer⟩ := Sigma.mk.inj (readBy_eq_some reads)
      have answer : s.shared.world.subscriptions.getSubscribers (.channelTopic hub channel) =
        conns := Except.ok.inj (eq_of_heq answer)
      subst answer
      have hears := (s.shared.world.subscriptions.consistent.same _ _).mpr listens
      rcases inv.heard hub channel hears with focused | ⟨i, cursor, selects, -⟩
      · exact focused
      · obtain ⟨rfl, is⟩ := inv.caller sends selects
        nomatch is
    · exact inv.read i conn sent sends hub channel conns before listens
  case told =>
    intro later earlier i conn sent conns hub channel msg logged is listens
    have began := Scene.began_mem_log_called.mp logged
    rcases told_log is with ⟨now, rfl⟩ | ⟨rest, before⟩
    · obtain ⟨rfl, rfl, -⟩ := Event.called.inj now
      obtain rfl := inv.once n _ _ runs.1 began
      exact inv.read n conn sent runs hub channel conns (law.2 _ rfl _ _ rfl _ _ _ _ rfl) listens
    · exact inv.told rest earlier i conn sent conns hub channel msg began before listens

end Invariant

theorem preserves (mode : WriteMode) (k : GlobalConnId) :
    (discipline mode).Preserves Start (Leads k) (Inv k) where
  start := fun _ _ _ inv idle fresh => inv.start idle fresh
  call := fun _ _ _ _ _ inv began running law leads => inv.call ⟨began, running⟩ law leads
  ends := fun _ _ _ _ inv began running ended => inv.ends ⟨began, running⟩ ended

theorem inv_idle (deaf : ∀ hub channel, ¬ shared.world.Subscribed k (.channelTopic hub channel)) :
    Inv k { shared } where
  once := fun _ _ _ began => absurd began List.not_mem_nil
  single := fun _ _ _ _ runs => absurd runs.1 List.not_mem_nil
  heard := fun hub channel hears => absurd hears (deaf hub channel)
  opened := fun _ _ ⟨_, runs⟩ => absurd runs.1 List.not_mem_nil
  failed := fun _ _ ⟨_, runs⟩ => absurd runs.1 List.not_mem_nil
  read := fun _ _ _ runs => absurd runs.1 List.not_mem_nil
  told := fun _ _ _ _ _ _ _ _ _ began => absurd began List.not_mem_nil

/-- **The fan-out follows the focus.**  Where no ACTIVE_CHANNEL adds a channel to another,
or fails when it has subscribed, a connection hears between two commands no channel but
that of its last successful ACTIVE_CHANNEL, and no MESSAGE_SEND to another is told it. -/
theorem fan_out_follows_focus {mode : WriteMode} {shared : Server} {k : GlobalConnId}
    {moves : List (Move Command ServerEnv)} {pool : ServerPool}
    (is : pool = run (Pool.step (server mode)) (Pool.idle shared) moves)
    (deaf : ∀ hub channel, ¬ shared.world.Subscribed k (.channelTopic hub channel))
    (staged : Staged (Pool.step (server mode)) (Pool.Next Start (Leads k)) (Pool.idle shared)
      moves) :
    (pool.scene.Idle → ∀ hub channel,
      pool.scene.shared.world.Subscribed k (.channelTopic hub channel) →
        focus k pool.scene.history = some (hub, channel)) ∧
    ∀ later earlier i conn cmd conns hub channel msg,
      .began i (.sendMessage conn cmd) ∈ pool.scene.history →
      pool.scene.history =
        later ++ .called i (.inr (.push (appended conns hub channel msg))) (.ok ()) :: earlier →
      k ∈ conns → focus k earlier = some (hub, channel) := by
  subst is
  have inv := (discipline mode).run_inv keeps (preserves mode k) staged (inv_idle deaf)
  exact ⟨fun idle hub channel hears => inv.focused idle hears, inv.told⟩

end Focus

namespace TwoChannels

open Lobby

def random : ChannelId := ⟨"random"⟩

/-- Alice's hub has a second text channel. -/
def start : Server :=
  { Lobby.server with
    world := { Lobby.world with
      database := (Lobby.world.database.createChannel
        { id := random, hubId := home, type := .chat }).getD .empty } }

def selects (conn : GlobalConnId) (channel : ChannelId) : Move Command ServerEnv :=
  .start (.request (.selectActiveChannel conn home channel none 0))

/-- Bob selects a channel, then the other; alice sends a message to the first. -/
def moves : List (Move Command ServerEnv) :=
  [selects phone general] ++ steps 0 14 ++ [selects phone random] ++ steps 1 10 ++
    [.start (.sendMessage desk greeting)] ++ steps 2 7 sends

def after : ServerPool := run (Pool.step (server .synchronous)) (Pool.idle start) moves

/-- Bob's focus is on the second channel; he hears the first as well, and is told alice's
message. -/
theorem old_channel_is_heard :
    after.scene.Idle ∧ Focus.focus phone after.scene.history = some (home, random) ∧
      after.scene.shared.world.Subscribed phone (.channelTopic home general) ∧
      after.scene.shared.world.Subscribed phone (.channelTopic home random) ∧
      after.scene.shared.outgoing.head? = some (LiveMessages.appended [phone] home general
        { greeting.message alice ⟨"m"⟩ [] none with messageSeq := 1 }) :=
  ⟨by decide, by decide, by decide, by decide, by decide⟩

/-- Bob selects the first channel, and alice the second, where she sends a message; she removes the
first, and bob selects the second. -/
def moved : List (Move Command ServerEnv) :=
  [selects phone general] ++ steps 0 14 ++ [selects desk random] ++ steps 1 14 ++
    [.start (.sendMessage desk { greeting with channelId := random })] ++ steps 2 9 sends ++
    [.start (.request (.removeChannel desk home general))] ++ steps 3 10 ++
    [selects phone random] ++ steps 4 8

def settled : ServerPool := run (Pool.step (server .synchronous)) (Pool.idle start) moved

theorem moved_leads : Staged (Pool.step (server .synchronous))
    (Pool.Next Focus.Start (Focus.Leads phone)) (Pool.idle start) moved := by
  decide +kernel

/-- Bob hears the second channel; the message there was sent while his focus was on the first, and
is told to alice only. -/
theorem fan_out_follows_focus_moved :
    settled.scene.shared.world.Subscribed phone (.channelTopic home random) ∧
      Focus.focus phone settled.scene.history = some (home, random) ∧
      LiveMessages.appended [desk] home random
          { greeting.message alice ⟨"m"⟩ [] none with chId := random, messageSeq := 1 } ∈
        settled.scene.shared.outgoing := by
  have deaf : ∀ hub channel, ¬ start.world.Subscribed phone (.channelTopic hub channel) :=
    fun hub channel => SubscriptionManager.not_subscribed_empty
  have hears : settled.scene.shared.world.Subscribed phone (.channelTopic home random) := by
    decide +kernel
  have idle : settled.scene.Idle := by decide +kernel
  have is : settled = run (Pool.step (server .synchronous)) (Pool.idle start) moved := rfl
  have focused := (Focus.fan_out_follows_focus is deaf moved_leads).1 idle home random hears
  exact ⟨hears, focused, by decide +kernel⟩

end TwoChannels

end Kergit
