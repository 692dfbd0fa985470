import Kergit.Server

/-!
Select and subscribe.

An ACTIVE_CHANNEL subscribes its connection before it fetches; a MESSAGE_SEND saves its
message before it reads the subscribers.  If the sender did not see the connection, it
read the subscribers before the connection subscribed, and so saved the message before
the fetch.  What is saved is stored then, unless an asynchronous writer has it still:
the fetch finds nothing of a message that waits for its insert.

`Inv` is this argument as an invariant: every message of a sender that missed the
connection is in what the connection has fetched, or older than all of it.
-/

namespace Kergit

open Lib

open HubProg (session subscription outside)

open ServerProg (hub desk)

open Snapshots (Sane)

namespace LiveMessages

/-! ## What calls show -/

/-- The message a call has saved. -/
def savedBy : ServerEntry → Option Message
  | ⟨.inr (.sendMessage _), .ok saved⟩ => saved
  | ⟨.inr (.enqueue _), .ok req⟩ => req.map fun req => req.msg
  | _ => none

/-- The subscribers of a topic a call has read. -/
def readBy (topic : Topic) : ServerEntry → Option (List GlobalConnId)
  | ⟨.inl (.subscription (.getSubscribers asked)), .ok conns⟩ =>
    if asked = topic then some conns else none
  | _ => none

/-- The latest messages of a channel a call has fetched. -/
def fetchedBy (channel : ChannelId) (limit : Int) : ServerEntry → Option (List Message)
  | ⟨.inl (.outside (.fetchMessages asked none bound)), .ok fetched⟩ =>
    if asked = channel ∧ bound = limit then fetched else none
  | _ => none

/-- The call has subscribed a connection to a topic. -/
def subscribedBy (k : GlobalConnId) (topic : Topic) : ServerEntry → Option Unit
  | ⟨.inl (.subscription (.subscribeConnection conn asked)), .ok _⟩ =>
    if conn = k ∧ asked = topic then some () else none
  | _ => none

theorem savedBy_eq_some (shown : savedBy entry = some msg) :
    (∃ draft, entry = ⟨.inr (.sendMessage draft), .ok (some msg)⟩) ∨
      ∃ draft req, entry = ⟨.inr (.enqueue draft), .ok (some req)⟩ ∧ req.msg = msg := by
  unfold savedBy at shown
  grind [Option.map_eq_some_iff]

theorem readBy_eq_some (shown : readBy topic entry = some conns) :
    entry = ⟨.inl (.subscription (.getSubscribers topic)), .ok conns⟩ := by
  unfold readBy at shown
  grind

theorem fetchedBy_eq_some (shown : fetchedBy channel limit entry = some fetched) :
    entry = ⟨.inl (.outside (.fetchMessages channel none limit)), .ok (some fetched)⟩ := by
  unfold fetchedBy at shown
  grind

theorem subscribedBy_eq_some (shown : subscribedBy k topic entry = some ()) :
    ∃ added, entry = ⟨.inl (.subscription (.subscribeConnection k topic)), .ok added⟩ := by
  unfold subscribedBy at shown
  grind

/-! ## The condition -/

/-- The commands are ACTIVE_CHANNELs and MESSAGE_SENDs, and the writer may be at work. -/
def Start (_s : ServerScene) : Command → Prop
  | .request (.selectActiveChannel _ _ _ _ _) | .sendMessage _ _ | .writeNext => True
  | _ => False

instance (s : ServerScene) (cmd : Command) : Decidable (Start s cmd) := by
  unfold Start
  split <;> infer_instance

section Condition

variable (mode : WriteMode) (i : Nat) (k : GlobalConnId) (hubId : HubId) (channel : ChannelId)

/-- A sender has saved the message, and read the channel's subscribers without `k`. -/
def Missed (s : ServerScene) (j : Nat) (msg : Message) : Prop :=
  msg ∈ s.gathered j savedBy ∧
    ∃ conns ∈ s.gathered j (readBy (.channelTopic hubId channel)), k ∉ conns
deriving Decidable

/-- When task `i` fetches, the writer has inserted every message whose sender missed `k`. -/
def Inserted (s : ServerScene) (i' : Nat) (_env : ServerEnv) : ServerCall → Prop
  | .inl (.outside (.fetchMessages _ none _)) =>
    i' = i → mode = .asynchronous → ∀ event ∈ s.history, ∀ msg ∈ s.gathered event.task savedBy,
      Missed k hubId channel s event.task msg →
        s.shared.store.repository.StoredIn channel msg.id
  | _ => True

instance (s : ServerScene) (i' : Nat) (env : ServerEnv) (c : ServerCall) :
    Decidable (Inserted mode i k hubId channel s i' env c) := by
  unfold Inserted
  split <;> infer_instance

end Condition

/-! ## The latest messages -/

/-- The message is among the fetched ones, or these are as many as were asked for and all
newer. -/
def Covered (r : MessageRepository) (limit : Int) (msg : Message) (fetched : List Message) :
    Prop :=
  (∃ state ∈ fetched, state.id = msg.id) ∨
    limit ≤ fetched.length ∧ ∃ row ∈ r.tables.messages, row.id = msg.id ∧
      ∀ state ∈ fetched, row.messageSeq < state.messageSeq

/-- The front of a descending list holds an element, or is full of greater ones. -/
theorem mem_take_or_above {α : Type} {gt : α → α → Prop} {items : List α}
    (descending : items.Pairwise gt) {x : α} (listed : x ∈ items) (n : Nat) :
    x ∈ items.take n ∨ (items.take n).length = n ∧ ∀ y ∈ items.take n, gt y x := by
  rw [← List.take_append_drop n items] at descending listed
  rcases List.mem_append.mp listed with front | back
  · exact .inl front
  · refine .inr ⟨List.length_take_of_le ?_, fun y front => ?_⟩
    · by_contra short
      rw [List.drop_eq_nil_of_le (by omega)] at back
      nomatch back
    · exact (List.pairwise_append.mp descending).2.2 y front x back

/-- A stored message is covered by a fetch of its channel. -/
theorem covered_of_storedIn {r : MessageRepository} {channel : ChannelId}
    {limit : Int} (bound : 0 ≤ limit) (stored : r.StoredIn channel msg.id) :
    Covered r limit msg (r.fetchMessages channel limit.toNat) := by
  obtain ⟨row, listed, same, here⟩ := stored
  have among : row ∈ (r.tables.messages.filter fun row => row.channelId = channel).reverse :=
    List.mem_reverse.mpr (List.mem_filter.mpr ⟨listed, decide_eq_true here⟩)
  have descending := List.pairwise_reverse.mpr (r.ascending channel)
  rw [MessageRepository.fetchMessages_eq]
  rcases mem_take_or_above descending among limit.toNat with front | ⟨full, newer⟩
  · exact .inl ⟨r.message row, List.mem_map_of_mem front, same⟩
  · refine .inr ⟨?_, row, listed, same, ?_⟩
    · rw [List.length_map]
      omega
    · intro state shown
      obtain ⟨other, front, rfl⟩ := List.mem_map.mp shown
      exact newer other front

/-! ## The rule of a single call -/

/-- A subscription call that takes nobody off a topic. -/
def Widens : SubscriptionCall → Prop
  | .subscribeConnection _ _ | .getSubscribers _ | .getSubscriptionsForConnection _ => True
  | .unsubscribeConnection _ _ | .removeAllForConnection _ | .removeAllForTopic _ => False

/-- An ACTIVE_CHANNEL fetches what it was asked for, after it has subscribed. -/
def FetchRule (cmd : Command) (t : HubTranscript) : HubCall → Prop
  | .subscription c => Widens c
  | .outside (.fetchMessages asked after bound) =>
    ∀ conn hubId channel cursor latestLimit,
      cmd = .request (.selectActiveChannel conn hubId channel cursor latestLimit) →
      asked = channel ∧ after = cursor ∧ bound = Handlers.clampLimit latestLimit ∧
        ∃ added, ⟨.subscription (.subscribeConnection conn (.channelTopic hubId channel)),
          .ok added⟩ ∈ t
  | _ => True

/-- The command sends the draft, and has not read any subscribers yet. -/
def Posts (cmd : Command) (t : ServerTranscript) (draft : Draft) : Prop :=
  (∃ conn c, cmd = .sendMessage conn c ∧ draft.channelId = c.channelId) ∧
    ∀ topic, t.filterMap (readBy topic) = []

/-- A batch that is pushed has been fetched. -/
def Shown (cmd : Command) (t : ServerTranscript) (out : Outgoing) : Prop :=
  ∀ conn hubId channel latestLimit states,
    cmd = .request (.selectActiveChannel conn hubId channel none latestLimit) →
    out = .one conn (.stateDelta ⟨hubId, [.messageBatch channel states]⟩) →
    ∃ fetched ∈ t.filterMap (fetchedBy channel (Handlers.clampLimit latestLimit)),
      states = fetched.reverse

/-- The notice of a message that was sent. -/
def appended (conns : List GlobalConnId) (hubId : HubId) (channel : ChannelId) (msg : Message) :
    Outgoing :=
  ⟨conns, .stateDelta ⟨hubId, [.messageAppend channel msg]⟩⟩

/-- A MESSAGE_SEND tells the subscribers it has read. -/
def TellsReaders (cmd : Command) (t : ServerTranscript) (out : Outgoing) : Prop :=
  ∀ conn sent, cmd = .sendMessage conn sent →
    ∀ conns hubId channel msg, out = appended conns hubId channel msg →
      conns ∈ t.filterMap (readBy (.channelTopic hubId channel))

def Law (mode : WriteMode) (cmd : Command) (t : ServerTranscript) : ServerCall → Prop
  | .inl c => FetchRule cmd t.firsts c
  | .inr (.sendMessage draft) => Posts cmd t draft
  | .inr (.enqueue draft) => mode = .asynchronous ∧ Posts cmd t draft
  | .inr (.push out) => Shown cmd t out ∧ TellsReaders cmd t out
  | .inr _ => True

/-- A MESSAGE_SEND that saved its message has pushed it to the subscribers it read. -/
def End (cmd : Command) (_ : Except Thrown Reply) (t : ServerTranscript) : Prop :=
  ∀ conn c, cmd = .sendMessage conn c → ∀ msg ∈ t.filterMap savedBy,
    ∃ conns ∈ t.filterMap (readBy (.channelTopic c.hubId c.channelId)), conns ≠ [] →
      ⟨.inr (.push (appended conns c.hubId c.channelId msg)), .ok ()⟩ ∈ t

def discipline (mode : WriteMode) : Discipline (server mode) where
  Possible := SaneCall
  Rule := Law mode
  End := End
  possible := exec_saneCall

/-! ## The programs keep the rule -/

/-- The call asks the session manager, a cache or the database. -/
def Looks : HubCall → Prop
  | .session _ => True
  | c => c.Reads

section Select

variable {conn : GlobalConnId} {hubId : HubId} {channel : ChannelId} {cursor : Option Nat}
  {latestLimit : Nat}

/-- A batch without a cursor is what was fetched, the other way round. -/
def Batched (conn : GlobalConnId) (hubId : HubId) (channel : ChannelId) (cursor : Option Nat)
    (latestLimit : Nat) (result : Except Thrown Reply) (t : HubTranscript) : Prop :=
  ∀ reply, result = .ok reply → ∀ states, cursor = none →
    .one conn (.stateDelta ⟨hubId, [.messageBatch channel states]⟩) ∈ reply.outgoing conn →
    ∃ fetched, ⟨.outside (.fetchMessages channel none (Handlers.clampLimit latestLimit)),
      .ok (some fetched)⟩ ∈ t ∧ states = fetched.reverse

theorem batched_stopped (differs : ∀ out, result ≠ .ok (.done out)) :
    Batched conn hubId channel cursor latestLimit result t := by
  rintro reply rfl states _ listed
  cases reply with
  | done out => exact absurd rfl (differs out)
  | refused _ | authFailed => simp [Reply.outgoing, Outgoing.one] at listed

theorem openChannel_along (user : UserId) (t : HubTranscript) :
    (Handlers.openChannel conn user hubId channel cursor latestLimit).Along Sane
      (FetchRule (.request (.selectActiveChannel conn hubId channel cursor latestLimit)))
      (Batched conn hubId channel cursor latestLimit) t := by
  refine bind_subscribe trivial fun added => ?_
  refine .bind_sure id trivial fun _ => ?_
  split
  · exact batched_stopped nofun
  · refine Prog.Along.bind_ask ?_ (fun fetched _ => ?_) fun e _ reply thrown => nomatch thrown
    · rintro _ _ _ _ _ ⟨⟩
      exact ⟨rfl, rfl, rfl, added, List.mem_cons_of_mem _ List.mem_cons_self⟩
    · cases fetched with
      | none => exact batched_stopped nofun
      | some messages =>
        dsimp only
        split
        · rename_i latest
          rintro reply ⟨⟩ states _ listed
          obtain ⟨rfl⟩ : states = messages.reverse := by
            simpa [Handlers.batch, Reply.outgoing, Outgoing.one] using listed
          refine ⟨messages, ?_, rfl⟩
          rw [latest]
          exact List.mem_cons_self
        · rename_i some_
          split
          all_goals exact fun reply _ states none => absurd none some_

/-- An ACTIVE_CHANNEL looks up what it needs, and stops or opens the channel. -/
theorem select_along {Rule : HubTranscript → HubCall → Prop} {K : HubTranscript → Prop}
    {Q : Except Thrown Reply → HubTranscript → Prop}
    (looks : ∀ t c, Looks c → K t → Rule t c ∧ ∀ answer, Sane c answer → K (⟨c, answer⟩ :: t))
    (stops : ∀ {result t}, (∀ out, result ≠ .ok (.done out)) → K t → Q result t)
    (opens : ∀ user t, (Handlers.openChannel conn user hubId channel cursor latestLimit).Along Sane
      Rule Q t) (start : K []) :
    (Handlers.selectActiveChannel conn hubId channel cursor latestLimit).Along Sane Rule Q [] := by
  have reading : ∀ {α : Type} {p : HubProg α} {t : HubTranscript}, p.Only HubCall.Reads → K t →
      p.Along Sane Rule (fun _ => K) t :=
    fun reads => .of_only reads fun t c is => looks t c (by cases c <;> trivial)
  unfold Handlers.selectActiveChannel
  split
  · exact stops nofun start
  · obtain ⟨rule, kept⟩ := looks [] (.session (.sessionOfConnection conn)) trivial start
    refine .bind_sure id rule fun found => ?_
    have asked := kept (.ok found) ⟨found, rfl⟩
    cases found with
    | error e => exact stops nofun asked
    | ok user =>
      refine (reading (HubService.getChannel_reads channel) asked).bind (fun info t held => ?_)
        fun e t held => stops nofun held
      cases info with
      | none => exact stops nofun held
      | some info =>
        dsimp only
        split
        · exact stops nofun held
        · split
          · exact stops nofun held
          · refine (reading (HubService.isHubMember_reads hubId user) held).bind
              (fun member t held => ?_) fun e t held => stops nofun held
            cases member with
            | false => exact stops nofun held
            | true => exact opens user t

theorem selectActiveChannel_along :
    (Handlers.selectActiveChannel conn hubId channel cursor latestLimit).Along Sane
      (FetchRule (.request (.selectActiveChannel conn hubId channel cursor latestLimit)))
      (Batched conn hubId channel cursor latestLimit) [] := by
  refine select_along (K := fun _ => True) (fun t c looks _ => ⟨?_, fun _ _ => trivial⟩)
    (fun differs _ => batched_stopped differs) openChannel_along trivial
  cases c <;> trivial

theorem select_keeps (mode : WriteMode) : (discipline mode).Keeps
    (.request (.selectActiveChannel conn hubId channel cursor latestLimit)) := by
  refine serve_along
    (fun reply t => ∀ out ∈ reply.outgoing conn,
      Shown (.request (.selectActiveChannel conn hubId channel cursor latestLimit)) t out)
    (hub_along selectActiveChannel_along fun _ _ rule => rule) ?_ ?_ nofun nofun
  · rintro reply t ⟨batched, -⟩ out listed
    rintro _ _ _ _ states ⟨⟩ rfl
    obtain ⟨fetched, called, is⟩ := batched reply rfl states rfl listed
    refine ⟨fetched, List.mem_filterMap.mpr ⟨_, Transcript.mem_firsts.mp called, ?_⟩, is⟩
    exact if_pos ⟨rfl, rfl⟩
  · intro reply out t listed shown
    refine ⟨⟨shown out listed, nofun⟩, fun other among => ?_⟩
    rintro _ _ _ _ states ⟨⟩ rfl
    obtain ⟨fetched, called, is⟩ := shown _ among _ _ _ _ states rfl rfl
    exact ⟨fetched, called, is⟩

end Select

/-! ### Sending -/

section Send

variable {conn : GlobalConnId} {cmd : SendMessage} {mode : WriteMode}

/-- No subscribers have been read. -/
def Unread (t : HubTranscript) : Prop :=
  ∀ topic answer, ⟨.subscription (.getSubscribers topic), answer⟩ ∉ t

theorem unread_cons (looks : Looks c) (unread : Unread t) : Unread (⟨c, answer⟩ :: t) := by
  intro topic found listed
  rcases List.mem_cons.mp listed with same | earlier
  · cases same
    exact looks
  · exact unread topic found earlier

theorem Unread.reads {t : ServerTranscript} (unread : Unread t.firsts) (topic : Topic) :
    t.filterMap (readBy topic) = [] := by
  refine List.filterMap_eq_nil_iff.mpr fun entry listed => ?_
  match entry with
  | ⟨.inl (.subscription (.getSubscribers asked)), answer⟩ =>
    exact absurd (Transcript.mem_firsts.mpr listed) (unread asked answer)
  | ⟨.inl (.subscription (.subscribeConnection _ _)), _⟩
  | ⟨.inl (.subscription (.unsubscribeConnection _ _)), _⟩
  | ⟨.inl (.subscription (.getSubscriptionsForConnection _)), _⟩
  | ⟨.inl (.subscription (.removeAllForConnection _)), _⟩
  | ⟨.inl (.subscription (.removeAllForTopic _)), _⟩ | ⟨.inl (.session _), _⟩
  | ⟨.inl (.cache _), _⟩ | ⟨.inl (.database _), _⟩ | ⟨.inl (.outside _), _⟩ | ⟨.inr _, _⟩ => rfl

/-- The draft is for the command's channel. -/
def Drafted (cmd : SendMessage) (result : Except Thrown (Except VoiceState.Refusal Draft))
    (t : HubTranscript) : Prop :=
  Unread t ∧ ∀ draft, result = .ok (.ok draft) → draft.channelId = cmd.channelId

theorem draftMessage_along :
    (Handlers.draftMessage conn cmd).Along Sane (FetchRule (.sendMessage conn cmd))
      (Drafted cmd) [] := by
  have reading : ∀ {α : Type} {p : HubProg α} {t : HubTranscript}, p.Only HubCall.Reads →
      Unread t → p.Along Sane (FetchRule (.sendMessage conn cmd)) (fun _ => Unread) t := by
    intro α p t reads unread
    refine Prog.Along.of_only reads (fun t c is unread => ⟨?_, fun _ _ => ?_⟩) unread
    · cases c <;> trivial
    · exact unread_cons (by cases c <;> trivial) unread
  have start : Unread [] := fun _ _ => List.not_mem_nil
  unfold Handlers.draftMessage
  split
  · exact ⟨start, nofun⟩
  · refine .bind_sure id trivial fun found => ?_
    have asked : Unread [⟨.session (.sessionOfConnection conn), .ok found⟩] :=
      unread_cons trivial start
    cases found with
    | error e => exact ⟨asked, nofun⟩
    | ok user =>
      dsimp only
      split
      · exact ⟨asked, nofun⟩
      · refine (reading (HubService.getChannel_reads _) asked).bind (fun info t unread => ?_)
          fun e t unread => ⟨unread, nofun⟩
        cases info with
        | none => exact ⟨unread, nofun⟩
        | some info =>
          dsimp only
          split
          · exact ⟨unread, nofun⟩
          · refine (reading (HubService.isHubMember_reads _ _) unread).bind
              (fun member t unread => ?_) fun e t unread => ⟨unread, nofun⟩
            cases member with
            | false => exact ⟨unread, nofun⟩
            | true =>
              refine ⟨unread, ?_⟩
              rintro draft ⟨⟩
              rfl

/-- What a post leaves behind: the message that is saved is in the notice, which goes to the
subscribers that were read; or none is saved, and the command refused. -/
def Posted (cmd : SendMessage) (reply : Reply) (t : ServerTranscript) : Prop :=
  (∃ msg, t.filterMap savedBy = [msg] ∧
    ∃ conns ∈ t.filterMap (readBy (.channelTopic cmd.hubId cmd.channelId)),
      reply = .done (Outgoing.delta conns cmd.hubId [.messageAppend cmd.channelId msg])) ∨
  t.filterMap savedBy = [] ∧ ∃ refusal, reply = .refused refusal

/-- What a MESSAGE_SEND leaves behind; one that throws has saved nothing. -/
def Settled (cmd : SendMessage) : Except Thrown Reply → ServerTranscript → Prop
  | .ok reply, t => Posted cmd reply t
  | .error _, t => t.filterMap savedBy = []

theorem postMessage_along {t : ServerTranscript}
    (here : draft.channelId = cmd.channelId) (unsaved : t.filterMap savedBy = [])
    (unread : ∀ topic, t.filterMap (readBy topic) = []) :
    (Handlers.postMessage mode cmd.hubId draft).Along SaneCall (Law mode (.sendMessage conn cmd))
      (fun result t => ∃ reply, result = .ok reply ∧ Posted cmd reply t) t := by
  have posts : Posts (.sendMessage conn cmd) t draft := ⟨⟨conn, cmd, rfl, here⟩, unread⟩
  -- The rest, when the one message saved is `msg`.
  have tells : ∀ (msg : Message) (t : ServerTranscript), t.filterMap savedBy = [msg] →
      (do
        let subs ← hub (subscription (.getSubscribers (.channelTopic cmd.hubId draft.channelId)))
        return Reply.done (Outgoing.delta subs cmd.hubId [.messageAppend draft.channelId msg]) :
        ServerProg Reply).Along SaneCall (Law mode (.sendMessage conn cmd))
        (fun result t => ∃ reply, result = .ok reply ∧ Posted cmd reply t) t := by
    intro msg t only
    refine ⟨trivial, ?_⟩
    rintro _ ⟨subs, rfl⟩
    refine ⟨_, rfl, .inl ⟨msg, by rw [List.filterMap_cons_none rfl, only], subs, ?_, by rw [here]⟩⟩
    refine List.mem_filterMap.mpr ⟨_, List.mem_cons_self, ?_⟩
    rw [here]
    exact if_pos rfl
  cases mode with
  | synchronous =>
    refine ⟨posts, ?_⟩
    rintro _ ⟨saved, rfl⟩
    cases saved with
    | none => exact ⟨_, rfl, .inr ⟨by rw [List.filterMap_cons_none rfl, unsaved], _, rfl⟩⟩
    | some msg => exact tells msg _ (congrArg (msg :: ·) unsaved)
  | asynchronous =>
    refine ⟨⟨rfl, posts⟩, ?_⟩
    rintro _ ⟨accepted, rfl⟩
    cases accepted with
    | none => exact ⟨_, rfl, .inr ⟨by rw [List.filterMap_cons_none rfl, unsaved], _, rfl⟩⟩
    | some req =>
      refine ⟨trivial, ?_⟩
      rintro _ ⟨_, rfl⟩
      exact tells req.msg _ (congrArg (req.msg :: ·) unsaved)

/-- A task that has made the handlers' calls only has saved nothing. -/
theorem unsaved_of_seconds {t : ServerTranscript} (none : t.seconds = []) :
    t.filterMap savedBy = [] := by
  refine List.filterMap_eq_nil_iff.mpr fun entry listed => ?_
  match entry with
  | ⟨.inl _, _⟩ => rfl
  | ⟨.inr c, answer⟩ =>
    have second := Transcript.mem_seconds.mpr listed
    rw [none] at second
    nomatch second

theorem send_keeps : (discipline mode).Keeps (.sendMessage conn cmd) := by
  have handler : (Handlers.sendMessage mode conn cmd).Along SaneCall
      (Law mode (.sendMessage conn cmd)) (Settled cmd) [] := by
    refine (hub_along draftMessage_along fun _ _ rule => rule).bind ?_
      fun e t held => unsaved_of_seconds held.2
    rintro drafted t ⟨⟨unread, here⟩, none⟩
    have unsaved := unsaved_of_seconds none
    cases drafted with
    | error refusal => exact .inr ⟨unsaved, _, rfl⟩
    | ok draft =>
      refine (postMessage_along (here draft rfl) unsaved unread.reads).mono ?_
      rintro result t ⟨reply, rfl, posted⟩
      exact posted
  refine serve_along (Posted cmd) handler (fun reply t posted => posted) ?_ ?_ ?_
  · intro reply out t listed posted
    refine ⟨⟨by simp [Shown], ?_⟩, posted⟩
    rintro _ _ ⟨⟩ conns hubId channel msg rfl
    rcases posted with ⟨_, -, _, read, rfl⟩ | ⟨-, refusal, rfl⟩
    · cases (Outgoing.mem_toAny.mp listed).2
      exact read
    · cases List.mem_singleton.mp listed
  · intro reply t posted pushed
    rintro _ _ ⟨⟩ msg saved
    rcases posted with ⟨_, only, conns, read, rfl⟩ | ⟨none, -⟩
    · rw [only, List.mem_singleton] at saved
      subst saved
      exact ⟨conns, read, fun some_ => pushed _ (Outgoing.mem_toAny.mpr ⟨some_, rfl⟩)⟩
    · rw [none] at saved
      cases saved
  · intro e t unsaved
    rintro _ _ ⟨⟩ msg saved
    rw [unsaved] at saved
    cases saved

end Send

theorem keeps (s : ServerScene) (cmd : Command) (starts : Start s cmd) :
    (discipline mode).Keeps cmd := by
  match cmd with
  | .request (.selectActiveChannel _ _ _ _ _) => exact select_keeps mode
  | .sendMessage _ _ => exact send_keeps
  | .writeNext =>
    refine .bind_sure id trivial fun _ => ?_
    exact nofun

/-! ## The invariant -/

section Invariant

variable (mode : WriteMode) (i : Nat) (k : GlobalConnId) (hubId : HubId) (channel : ChannelId)
  (latestLimit : Nat)

/-- Task `i` is the ACTIVE_CHANNEL in question. -/
def Selects (s : ServerScene) : Prop :=
  .began i (.request (.selectActiveChannel k hubId channel none latestLimit)) ∈ s.history

/-- What task `i` has fetched. -/
def fetches (s : ServerScene) : List (List Message) :=
  s.gathered i (fetchedBy channel (Handlers.clampLimit latestLimit))

/-- Task `i` has subscribed `k`. -/
def Opened (s : ServerScene) : Prop := () ∈ s.gathered i (subscribedBy k (.channelTopic hubId channel))

structure Inv (s : ServerScene) : Prop extends (discipline mode).Abides s where
  subscribed : Opened i k hubId channel s →
    s.shared.world.Subscribed k (.channelTopic hubId channel)
  placed : ∀ j conn cmd, .began j (.sendMessage conn cmd) ∈ s.history →
    ∀ msg ∈ s.gathered j savedBy, msg.chId = cmd.channelId
  stored : mode = .synchronous → ∀ j, ∀ msg ∈ s.gathered j savedBy,
    s.shared.store.repository.StoredIn msg.chId msg.id
  told : Selects i k hubId channel latestLimit s →
    ∀ fetched ∈ fetches i channel latestLimit s, ∀ j, ∀ msg ∈ s.gathered j savedBy,
    ∀ conns ∈ s.gathered j (readBy (.channelTopic hubId channel)), msg.chId = channel →
      k ∈ conns ∨ Covered s.shared.store.repository (Handlers.clampLimit latestLimit) msg fetched

variable {mode i k hubId channel latestLimit} {s : ServerScene} {n : Nat} {cmd : Command}
  {env : ServerEnv}

theorem Inv.start (inv : Inv mode i k hubId channel latestLimit s) (fresh : s.trace n = []) :
    Inv mode i k hubId channel latestLimit (s.log (.began n cmd) s.shared) where
  toAbides := inv.toAbides.start fresh
  subscribed := by simpa only [Opened, Scene.gathered_log_began, Scene.log_shared] using inv.subscribed
  placed := by
    simp only [Scene.gathered_log_began]
    intro j conn sent began msg saved
    rcases List.mem_cons.mp began with same | earlier
    · cases same
      rw [Scene.gathered_of_fresh fresh] at saved
      nomatch saved
    · exact inv.placed j conn sent earlier msg saved
  stored := by simpa using inv.stored
  told := by
    simp only [fetches, Scene.gathered_log_began]
    intro selects fetched shown
    rcases List.mem_cons.mp selects with same | earlier
    · cases same
      rw [Scene.gathered_of_fresh fresh] at shown
      nomatch shown
    · exact inv.told earlier fetched shown

theorem Inv.return (inv : Inv mode i k hubId channel latestLimit s)
    (began : .began n cmd ∈ s.history) (ended : End cmd result (s.transcript n)) :
    Inv mode i k hubId channel latestLimit (s.log (.returned n result) s.shared) where
  toAbides := inv.toAbides.return began ended
  subscribed := by
    simpa only [Opened, Scene.gathered_log_returned, Scene.log_shared] using inv.subscribed
  placed := by
    simpa using inv.placed
  stored := by simpa using inv.stored
  told := by
    simpa only [Selects, fetches, Scene.gathered_log_returned, Scene.began_mem_log_returned,
      Scene.log_shared] using inv.told

/-! ### A call -/

variable {c : ServerCall}

/-- A call that keeps the rule leaves the subscribed subscribed. -/
theorem subscribed_exec {s : Server}
    (law : Law mode cmd t c) (before : s.world.Subscribed k topic) :
    (Server.exec env c s).2.world.Subscribed k topic := by
  match c with
  | .inr c =>
    have same : (Server.exec env (.inr c) s).2.world = s.world := exec_desk_world env c s
    rw [same]
    exact before
  | .inl (.subscription (.subscribeConnection conn asked)) =>
    exact SubscriptionManager.subscribed_subscribe.mpr (.inr before)
  | .inl (.subscription (.getSubscribers _))
  | .inl (.subscription (.getSubscriptionsForConnection _)) | .inl (.session _) => exact before
  | .inl (.cache _) | .inl (.database _) | .inl (.outside _) =>
    change (World.exec _ _ s.world).2.Subscribed k topic
    rw [World.Subscribed, (World.exec_apart ?_).2]
    · exact before
    · trivial

/-- A message that a call saves belongs to the channel of the draft that is posted, where it
is stored or queued. -/
theorem saved_posts {s : Server} (law : Law mode cmd t c)
    (shown : savedBy ⟨c, (Server.exec env c s).1⟩ = some msg) :
    (∃ draft, msg.chId = draft.channelId ∧ Posts cmd t draft) ∧ (mode = .synchronous →
      (Server.exec env c s).2.store.repository.StoredIn msg.chId msg.id) := by
  rcases savedBy_eq_some shown with ⟨draft, is⟩ | ⟨draft, req, is, rfl⟩
  · obtain ⟨rfl, answer⟩ := Sigma.mk.inj is
    have answer : (env.script.send draft s.store.repository).1 = some msg :=
      Except.ok.inj (eq_of_heq answer)
    obtain ⟨here, stored⟩ := send_some answer
    exact ⟨⟨draft, here, law⟩, fun _ => stored⟩
  · obtain ⟨rfl, answer⟩ := Sigma.mk.inj is
    have answer : (s.enqueue env draft).1 = some req := Except.ok.inj (eq_of_heq answer)
    refine ⟨⟨draft, ?_, law.2⟩, fun sync => nomatch sync.symm.trans law.1⟩
    unfold Server.enqueue at answer
    split at answer
    · obtain rfl := Option.some.inj answer
      rfl
    · nomatch answer

theorem fetch_eq_some {s : Server} (is : s.fetch env channel none limit = some fetched) :
    0 ≤ limit ∧ fetched = s.store.repository.fetchMessages channel limit.toNat := by
  unfold Server.fetch at is
  grind

section

variable (inv : Inv mode i k hubId channel latestLimit s)

include inv

/-- Task `i` fetches after it has subscribed. -/
theorem Inv.opened (selects : Selects i k hubId channel latestLimit s)
    (shown : fetched ∈ fetches i channel latestLimit s) : Opened i k hubId channel s := by
  obtain ⟨⟨c, answer⟩, listed, fetch⟩ := List.mem_filterMap.mp shown
  obtain ⟨rfl, -⟩ := Sigma.mk.inj (fetchedBy_eq_some fetch)
  obtain ⟨earlier, among, law⟩ := inv.calls i _ selects _ listed
  obtain ⟨-, -, -, added, called⟩ := law _ _ _ _ _ rfl
  exact List.mem_filterMap.mpr ⟨_, among (Transcript.mem_firsts.mp called), if_pos ⟨rfl, rfl⟩⟩

/-- A message that the sender's subscribers miss is stored when task `i` fetches. -/
theorem stored_at_fetch
    (inserted : Inserted mode i k hubId channel s i env
      (.inl (.outside (.fetchMessages channel none limit))))
    (saved : msg ∈ s.gathered j savedBy) (here : msg.chId = channel)
    (read : conns ∈ s.gathered j (readBy (.channelTopic hubId channel))) (missed : k ∉ conns) :
    s.shared.store.repository.StoredIn channel msg.id := by
  cases mode with
  | synchronous => exact here ▸ inv.stored rfl j msg saved
  | asynchronous =>
    have called : s.transcript j ≠ [] := by
      intro none
      rw [Scene.gathered, none] at saved
      cases saved
    obtain ⟨event, listed, rfl⟩ := Scene.exists_of_transcript_ne_nil called
    exact inserted rfl rfl event listed msg saved ⟨saved, conns, read, missed⟩

theorem Inv.call (began : .began n cmd ∈ s.history) (running : ¬ s.Returned n fun _ => true)
    (law : Law mode cmd (s.transcript n) c) (inserted : Inserted mode i k hubId channel s n env c) :
    Inv mode i k hubId channel latestLimit (Server.after s n env c) where
  toAbides := inv.toAbides.call began running law
  subscribed := by
    intro opened
    rcases Scene.mem_gathered_log.mp opened with ⟨-, shown⟩ | earlier
    · obtain ⟨added, is⟩ := subscribedBy_eq_some shown
      obtain ⟨rfl, -⟩ := Sigma.mk.inj is
      exact SubscriptionManager.subscribed_subscribe.mpr (.inl ⟨rfl, rfl⟩)
    · exact subscribed_exec law (inv.subscribed earlier)
  placed := by
    simp only [Scene.began_mem_log_called]
    intro j conn sent began' msg saved
    rcases Scene.mem_gathered_log.mp saved with ⟨rfl, shown⟩ | earlier
    · obtain ⟨⟨draft, chId, ⟨conn', sent', rfl, here⟩, -⟩, -⟩ := saved_posts law shown
      cases inv.once n _ _ began began'
      exact chId.trans here
    · exact inv.placed j conn sent began' msg earlier
  stored := by
    intro sync j msg saved
    rcases Scene.mem_gathered_log.mp saved with ⟨-, shown⟩ | earlier
    · exact (saved_posts law shown).2 sync
    · obtain ⟨row, listed, same⟩ := inv.stored sync j msg earlier
      exact ⟨row, exec_grows env c s.shared listed, same⟩
  told := by
    simp only [Selects, Scene.began_mem_log_called]
    intro selects fetched shown j msg saved conns read here
    rcases Scene.mem_gathered_log.mp saved with ⟨rfl, saves⟩ | savedBefore
    · obtain ⟨⟨draft, -, -, unread⟩, -⟩ := saved_posts law saves
      rcases Scene.mem_gathered_log.mp read with ⟨-, reads⟩ | readBefore
      · obtain ⟨rfl, -⟩ := Sigma.mk.inj (readBy_eq_some reads)
        cases saves
      · rw [Scene.gathered, unread] at readBefore
        cases readBefore
    · rcases Scene.mem_gathered_log.mp shown with ⟨rfl, fetch⟩ | shownBefore
      · obtain ⟨rfl, answer⟩ := Sigma.mk.inj (fetchedBy_eq_some fetch)
        rcases Scene.mem_gathered_log.mp read with ⟨-, reads⟩ | readBefore
        · cases reads
        · refine or_iff_not_imp_left.mpr fun missed => ?_
          have stored := stored_at_fetch inv inserted savedBefore here readBefore missed
          obtain ⟨bound, rfl⟩ := fetch_eq_some (Except.ok.inj (eq_of_heq answer))
          exact covered_of_storedIn bound stored
      · rcases Scene.mem_gathered_log.mp read with ⟨-, reads⟩ | readBefore
        · refine .inl ?_
          obtain ⟨rfl, answer⟩ := Sigma.mk.inj (readBy_eq_some reads)
          have opened := inv.opened selects shownBefore
          rw [← Except.ok.inj (eq_of_heq answer)]
          exact (s.shared.world.subscriptions.consistent.same _ _).mp (inv.subscribed opened)
        · rcases inv.told selects fetched shownBefore j msg savedBefore conns readBefore here with
            heard | covered
          · exact .inl heard
          · refine .inr (covered.imp_right ?_)
            rintro ⟨full, row, listed, newer⟩
            exact ⟨full, row, exec_grows env c s.shared listed, newer⟩

end

end Invariant

end LiveMessages

namespace Unwritten

open Lobby

/-- A turn of the writer's thread, as task `i`. -/
def writes (i : Nat) : List (Move Command ServerEnv) := [.start .writeNext, .turn i sends, .turn i sends]

/-- Alice's message is queued and nobody hears it; bob opens the channel before the writer
comes to it. -/
def moves : List (Move Command ServerEnv) :=
  [.start (.sendMessage desk greeting)] ++ steps 0 13 sends ++
    [.start (.request (.selectActiveChannel phone home general none 0))] ++ steps 1 8 ++
    writes 2 ++ writes 3 ++ writes 4

def after : ServerPool := run (Pool.step (server .asynchronous)) (Pool.idle Lobby.server) moves

/-- The same, with the writer first. -/
def written : List (Move Command ServerEnv) :=
  [.start (.sendMessage desk greeting)] ++ steps 0 13 sends ++
    writes 1 ++ writes 2 ++ writes 3 ++
    [.start (.request (.selectActiveChannel phone home general none 0))] ++ steps 4 8

def settled : ServerPool := run (Pool.step (server .asynchronous)) (Pool.idle Lobby.server) written

theorem written_inserted : Staged (Pool.step (server .asynchronous))
    (Pool.Next LiveMessages.Start (LiveMessages.Inserted .asynchronous 4 phone home general))
    (Pool.idle Lobby.server) written := by
  decide

/-- The message as it was queued. -/
def queued : Message := greeting.message alice ⟨"m"⟩ [] none

end Unwritten

end Kergit
