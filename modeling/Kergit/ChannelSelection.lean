import Kergit.Server

/-!
A rejected ACTIVE_CHANNEL.

The command checks its request, subscribes the connection and moves the user's session, and then
checks the cursor and fetches.  An error of the last two leaves the channel selected.
-/

namespace Kergit

open Lib

namespace Handlers

variable {env : CallEnv} {w w' : World} {conn : GlobalConnId} {hub : HubId} {channel : ChannelId}
  {cursor : Option Nat} {latestLimit : Nat} {code : CommandErrorCode} {text : String}

/-- The command, with nothing else going on. -/
abbrev selects (env : CallEnv) (w : World) (conn : GlobalConnId) (hub : HubId) (channel : ChannelId)
    (cursor : Option Nat) (latestLimit : Nat) : Except Thrown Reply × World :=
  Prog.alone World.exec env (selectActiveChannel conn hub channel cursor latestLimit) w

/-- The connection hears the same topics, and its user is where they were. -/
def Untouched (conn : GlobalConnId) (w w' : World) : Prop :=
  (∀ topic, w'.Subscribed conn topic ↔ w.Subscribed conn topic) ∧
    ∀ user, w.userOf conn = some user →
      w'.sessions.tables.sessions.lookup user = w.sessions.tables.sessions.lookup user

/-- The connection has a user, the channel is a text channel of the hub, and the user is a member:
so the services answer. -/
def Admitted (env : CallEnv) (w : World) (conn : GlobalConnId) (hub : HubId) (channel : ChannelId) :
    Prop :=
  hub.value ≠ "" ∧ channel.value ≠ "" ∧ ∃ user info w', w.userOf conn = some user ∧
    Prog.alone World.exec env (HubService.getChannel channel) w = (.ok (some info), w') ∧
    info.hubId = hub ∧ info.type = .chat ∧
    (Prog.alone World.exec env (HubService.isHubMember hub user) w').1 = .ok true

/-- The connection hears the channel already, and its user is there. -/
def Selected (w : World) (conn : GlobalConnId) (hub : HubId) (channel : ChannelId) : Prop :=
  w.Subscribed conn (.channelTopic hub channel) ∧ ∀ user, w.userOf conn = some user →
    w.sessions.tables.sessions.lookup user = some ⟨some hub, some channel⟩

/-- A program that calls neither manager leaves both as they are. -/
theorem managers_of_apart {α : Type} {p : HubProg α} (apart : p.Only HubCall.Apart) :
    (Prog.alone World.exec env p w).2.sessions = w.sessions ∧
      (Prog.alone World.exec env p w).2.subscriptions = w.subscriptions := by
  refine apart.alone_keeps (fun v : World => v.sessions = w.sessions ∧ v.subscriptions =
    w.subscriptions) (fun c v apart same => ?_) ⟨rfl, rfl⟩
  obtain ⟨sessions, subscriptions⟩ := @World.exec_apart env c v apart
  exact ⟨sessions.trans same.1, subscriptions.trans same.2⟩

theorem managers_of_reads {α : Type} {p : HubProg α} (reads : p.Only HubCall.Reads) {a : α}
    (done : Prog.alone World.exec env p w = (.ok a, w')) :
    w'.sessions = w.sessions ∧ w'.subscriptions = w.subscriptions := by
  have same := @managers_of_apart env w α p (reads.mono fun _ => HubCall.Reads.apart)
  rwa [done] at same

/-- Past its checks the command selects the channel, whatever comes of the rest. -/
theorem openChannel_selects (user : UserId) :
    let after := (Prog.alone World.exec env
      (openChannel conn user hub channel cursor latestLimit) w).2
    after.sessions = w.sessions.joinTextChannel user hub channel ∧
      after.subscriptions =
        (w.subscriptions.subscribeConnection conn (.channelTopic hub channel)).2 := by
  let heard : World := { w with
    subscriptions := (w.subscriptions.subscribeConnection conn (.channelTopic hub channel)).2 }
  have subscribed : Prog.alone World.exec env (subscribe conn (.channelTopic hub channel)) w =
      (.ok (), heard) := rfl
  have joined : Prog.alone World.exec env (HubProg.session (.joinTextChannel user hub channel))
      heard = (.ok (), { heard with sessions := w.sessions.joinTextChannel user hub channel }) := rfl
  rw [openChannel, Prog.alone_bind subscribed, Prog.alone_bind joined]
  refine managers_of_apart ?_
  split
  · trivial
  · refine .bind (.ask trivial) fun found => ?_
    cases found with
    | none => trivial
    | some messages =>
      dsimp only
      split
      · trivial
      · split <;> trivial

/-- The user of a connection has a position. -/
theorem lookup_joinTextChannel (known : w.userOf conn = some user) :
    (w.sessions.joinTextChannel user hub channel).tables.sessions.lookup user =
      some ⟨some hub, some channel⟩ := by
  obtain ⟨sid, -, owned⟩ := (w.sessions.consistent.conn_iff conn user).mp known
  have listed := (w.sessions.consistent.sessions_iff user sid).mpr owned
  have present := (w.sessions.consistent.info_iff user).mpr (SessionTables.listed_present listed)
  simp [SessionManager.joinTextChannel, SessionTables.joinTextChannel, present]

/-- Selecting a channel changes nothing exactly when it was selected. -/
theorem untouched_iff_selected (known : w.userOf conn = some user)
    (sessions : w'.sessions = w.sessions.joinTextChannel user hub channel)
    (subscriptions : w'.subscriptions =
      (w.subscriptions.subscribeConnection conn (.channelTopic hub channel)).2) :
    Untouched conn w w' ↔ Selected w conn hub channel := by
  have hears : ∀ topic, w'.Subscribed conn topic ↔
      topic = .channelTopic hub channel ∨ w.Subscribed conn topic := by
    intro topic
    rw [World.Subscribed, subscriptions, SubscriptionManager.subscribed_subscribe]
    grind [World.Subscribed]
  have moved := @lookup_joinTextChannel w conn hub channel user known
  rw [Untouched, Selected]
  grind

/-- A rejected command is not admitted and touches neither manager, or it is and selects the
channel. -/
theorem rejected_cases (rejected : (selects env w conn hub channel cursor latestLimit).1 =
      .ok (.refused (.error code text))) :
    let after := (selects env w conn hub channel cursor latestLimit).2
    (¬ Admitted env w conn hub channel ∧ after.sessions = w.sessions ∧
        after.subscriptions = w.subscriptions) ∨
      Admitted env w conn hub channel ∧ ∃ user, w.userOf conn = some user ∧
        after.sessions = w.sessions.joinTextChannel user hub channel ∧ after.subscriptions =
          (w.subscriptions.subscribeConnection conn (.channelTopic hub channel)).2 := by
  intro after
  simp only [after]
  unfold selects selectActiveChannel at rejected ⊢
  split at rejected
  · rename_i blank
    rw [if_pos blank]
    exact .inl ⟨fun admitted => blank.elim admitted.1 admitted.2.1, rfl, rfl⟩
  rename_i named
  rw [if_neg named]
  obtain ⟨answer, u, asked⟩ := Prog.alone_bind_ok rejected
  rw [Prog.alone_bind asked] at rejected ⊢
  obtain ⟨found, rfl⟩ : w.sessions.sessionOfConnection conn = answer ∧ w = u := by
    cases asked
    exact ⟨rfl, rfl⟩
  cases answer with
  | error e => nomatch rejected
  | ok user =>
    have known : w.userOf conn = some user := SessionManager.sessionOfConnection_ok.mp found
    obtain ⟨info, v, loaded⟩ := Prog.alone_bind_ok rejected
    rw [Prog.alone_bind loaded] at rejected ⊢
    have same := managers_of_reads
      ((HubService.getChannel_plain channel).mono fun _ plain => plain.reads) loaded
    cases info with
    | none =>
      refine .inl ⟨?_, same⟩
      rintro ⟨-, -, _, _, _, -, loaded', -⟩
      cases loaded.symm.trans loaded'
    | some info =>
      dsimp only at rejected ⊢
      by_cases inside : info.hubId = hub
      · by_cases chat : info.type = .chat
        · rw [if_neg (not_not.mpr inside), if_neg (not_not.mpr chat)] at rejected ⊢
          obtain ⟨member, v', answered⟩ := Prog.alone_bind_ok rejected
          rw [Prog.alone_bind answered] at rejected ⊢
          have still := managers_of_reads (HubService.isHubMember_reads hub user) answered
          cases member with
          | false =>
            refine .inl ⟨?_, still.1.trans same.1, still.2.trans same.2⟩
            rintro ⟨-, -, _, _, _, known', loaded', -, -, yes⟩
            cases loaded.symm.trans loaded'
            cases known.symm.trans known'
            rw [answered] at yes
            nomatch yes
          | true =>
            have admitted : Admitted env w conn hub channel :=
              ⟨fun blank => named (.inl blank), fun blank => named (.inr blank), user, info, v,
                known, loaded, inside, chat, by rw [answered]⟩
            have selects := @openChannel_selects env v' conn hub channel cursor latestLimit user
            rw [still.1, still.2, same.1, same.2] at selects
            exact .inr ⟨admitted, user, known, selects⟩
        · rw [if_neg (not_not.mpr inside), if_pos chat] at rejected ⊢
          refine .inl ⟨?_, same⟩
          rintro ⟨-, -, _, _, _, -, loaded', -, chat', -⟩
          cases loaded.symm.trans loaded'
          exact chat chat'
      · rw [if_pos inside] at rejected ⊢
        refine .inl ⟨?_, same⟩
        rintro ⟨-, -, _, _, _, -, loaded', inside', -⟩
        cases loaded.symm.trans loaded'
        exact inside inside'

/-- **A rejected selection has no effect exactly when it was not admitted, or the channel was
selected already.** -/
theorem rejected_selection_harmless_iff
    (rejected : (selects env w conn hub channel cursor latestLimit).1 =
      .ok (.refused (.error code text))) :
    Untouched conn w (selects env w conn hub channel cursor latestLimit).2 ↔
      ¬ Admitted env w conn hub channel ∨ Selected w conn hub channel := by
  rcases rejected_cases rejected with ⟨refused, sessions, subscriptions⟩ |
    ⟨admitted, user, known, sessions, subscriptions⟩
  · refine iff_of_true ⟨fun topic => ?_, fun user known => ?_⟩ (.inl refused)
    · rw [World.Subscribed, subscriptions]
      rfl
    · rw [sessions]
  · rw [untouched_iff_selected known sessions subscriptions]
    exact ⟨.inr, fun either => either.resolve_left (not_not.mpr admitted)⟩

end Handlers

namespace Lobby

open Handlers

/-- A cursor without a number is refused, and the channel is selected all the same. -/
theorem refused_cursor_selects :
    let after := selects {} world phone home general (some 0) 0
    after.1 = .ok (.refused (.error .invalidArgument
        "known_latest_cursor.message_seq is required")) ∧
      ¬ world.Subscribed phone (.channelTopic home general) ∧
      after.2.Subscribed phone (.channelTopic home general) ∧
      world.sessions.tables.sessions.lookup bob = some {} ∧
      after.2.sessions.tables.sessions.lookup bob = some ⟨some home, some general⟩ :=
  ⟨rfl, by decide, by decide, rfl, rfl⟩

theorem rejected_selection_harmless_attic :
    Untouched phone world (selects {} world phone home ⟨"attic"⟩ none 0).2 := by
  have rejected : (selects {} world phone home ⟨"attic"⟩ none 0).1 =
      .ok (.refused (.error .notFound "Channel not found")) := rfl
  refine (rejected_selection_harmless_iff rejected).mpr (.inl ?_)
  rintro ⟨-, -, _, _, _, -, loaded, -⟩
  cases loaded

end Lobby

end Kergit
