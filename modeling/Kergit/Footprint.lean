import Kergit.Server

/-!
What a command can touch and what it can say.

`Makes` lists, for every command, the calls by which it may change what the handlers
share: whom it may subscribe to which topics, which topics it may clear, which rows it
may write.  `Command.Tells` lists the notices it can send: an authentication is announced
by AUTH only, a new message by MESSAGE_SEND only, and so on.

Every handler is read once, in `composed`: it is put together from the parts `Request.Part`
allows it, and answers only what it may say.  `prog_makes` and `handler_tells` follow, and
so does whatever else is true of every part.
-/

namespace Kergit

open Lib

open HubProg (session subscription cache database outside)

open ServerProg (hub desk)

open Handlers (checkText parseTargetRole)

namespace Request

/-- The request may subscribe the connection to the topic. -/
def Subscribes (k : GlobalConnId) (topic : Topic) : Request → Prop
  | selectActiveChannel conn hub channel _ _ => k = conn ∧ topic = .channelTopic hub channel
  | bootstrap conn _ => k = conn ∧ ∃ hub, topic = .hubTopic hub
  | createHub _ _ | joinHubByInvite _ _ => ∃ hub, topic = .hubTopic hub
  | _ => False

/-- The request may take connections off the topic. -/
def Unsubscribes (topic : Topic) : Request → Prop
  | leaveHub _ hub | kickHubMember _ hub _ => topic.OfHub hub
  | _ => False

/-- The request may take everybody off the topic. -/
def Clears (topic : Topic) : Request → Prop
  | removeChannel _ hub _ => ∃ channel, topic = .channelTopic hub channel
  | deleteHub _ hub => topic.OfHub hub
  | _ => False

/-- The request may write the rows, and of a text that it is given what passes the check. -/
def Writes : DatabaseCall → Request → Prop
  | .createChannel hub _ name, createChannel _ asked _ given =>
    hub = asked ∧ checkText "Channel name" 80 given = .ok name
  | .createChannel _ _ name, createHub _ _ => name = "general"
  | .renameChannel _ name, renameChannel _ _ _ given =>
    ∃ raw ∈ given, checkText "Channel name" 80 raw = .ok name
  | .deleteChannel _ hub, removeChannel _ asked _ => hub = asked
  | .createHub _ name, createHub _ given => checkText "Hub name" 80 given = .ok name
  | .renameHub hub name, updateHub _ asked given _ =>
    hub = asked ∧ ∃ raw ∈ given, checkText "Hub name" 80 raw = .ok name
  | .updateHubAvatarSeed hub seed, updateHub _ asked _ given =>
    hub = asked ∧ ∃ raw ∈ given, checkText "Avatar seed" 128 raw = .ok seed
  | .deleteHub hub _, deleteHub _ asked => hub = asked
  | .addMember _ _ role, joinHubByInvite _ _ => role = .user
  | .addMember hub user role, updateHubMemberRole _ asked target wanted =>
    hub = asked ∧ user = target ∧ parseTargetRole wanted = some role
  | .removeMember hub _, leaveHub _ asked => hub = asked
  | .removeMember hub user, kickHubMember _ asked target => hub = asked ∧ user = target
  | _, _ => False

/-- The request may draw a new invite code for the hub. -/
def Invites (hub : HubId) : Request → Prop
  | getHubInvite _ asked => hub = asked
  | _ => False

/-- The request may make the call. -/
def Makes (r : Request) : HubCall → Prop
  | .session (.attachConnection conn _) => ∃ token resumes, r = authenticate conn token resumes
  | .session (.removeConnection conn) => r = disconnect conn
  | .subscription (.subscribeConnection conn topic) => r.Subscribes conn topic
  | .subscription (.unsubscribeConnection _ topic) => r.Unsubscribes topic
  | .subscription (.removeAllForConnection conn) => r = disconnect conn
  | .subscription (.removeAllForTopic topic) => r.Clears topic
  | .database d => d.Reads ∨ r.Writes d
  | .outside (.createInvite hub) => r.Invites hub
  | _ => True

/-- The handler may make the call itself. -/
def Asks (r : Request) : HubCall → Prop
  | .cache _ | .database _ | .outside (.createInvite _) => False
  | c => r.Makes c

/-- What the request's handler is put together from: calls of its own, and functions that
it shares with other handlers. -/
inductive Part (r : Request) : ∀ ⦃α : Type⦄, HubProg α → Prop
  | ask {c : HubCall} (asks : r.Asks c) : Part r (Prog.ask c)
  | invite {hub : HubId} (invites : r.Invites hub) : Part r (outside (.createInvite hub))
  | plain {α : Type} {p : HubProg α} (plain : p.Only HubCall.Plain) : Part r p
  | getMembershipRole (hub : HubId) (user : UserId) :
    Part r (HubService.getMembershipRole hub user)
  | isHubMember (hub : HubId) (user : UserId) : Part r (HubService.isHubMember hub user)
  | getHubChannelIds (hub : HubId) : Part r (HubService.getHubChannelIds hub)
  | syncForUser (user : UserId) : Part r (Handlers.buildStateSyncForUser user)
  | syncForHubs (user : UserId) (hubs : List HubId) :
    Part r (Handlers.buildStateSyncForRequestedHubs user hubs)
  | createHub {user : UserId} {name : String} (writes : r.Writes (.createHub user name)) :
    Part r (HubService.createHub user name)
  | createChannel {hub : HubId} {type : ChannelType} {name : String}
    (writes : r.Writes (.createChannel hub type name)) :
    Part r (HubService.createChannel hub type name)
  | renameChannel {channel : ChannelId} {name : String}
    (writes : r.Writes (.renameChannel channel name)) :
    Part r (HubService.renameChannel channel name)
  | deleteChannel {channel : ChannelId} {hub : HubId}
    (writes : r.Writes (.deleteChannel channel hub)) :
    Part r (HubService.deleteChannel channel hub)
  | renameHub {hub : HubId} {name : String} (writes : r.Writes (.renameHub hub name)) :
    Part r (HubService.renameHub hub name)
  | updateHubAvatarSeed {hub : HubId} {seed : String}
    (writes : r.Writes (.updateHubAvatarSeed hub seed)) :
    Part r (HubService.updateHubAvatarSeed hub seed)
  | deleteHub {hub : HubId} {user : UserId} (writes : r.Writes (.deleteHub hub user)) :
    Part r (HubService.deleteHub hub user)
  | addMember {hub : HubId} {user : UserId} {role : Role}
    (writes : r.Writes (.addMember hub user role)) : Part r (HubService.addMember hub user role)
  | removeMember {hub : HubId} {user : UserId} (writes : r.Writes (.removeMember hub user)) :
    Part r (HubService.removeMember hub user)

end Request

namespace Command

def conn : Command → GlobalConnId
  | request r => r.conn
  | sendMessage conn _ | voiceActivity conn _ _ _ _ => conn
  | writeNext => ⟨⟨""⟩, ⟨""⟩⟩

def handler (mode : WriteMode) : Command → ServerProg Reply
  | request r => hub r.prog
  | sendMessage conn cmd => Handlers.sendMessage mode conn cmd
  | voiceActivity conn hubId channel muted deafened =>
    Handlers.voiceActivity conn hubId channel muted deafened
  | writeNext => do
    desk .writeNext
    return .done

/-! ## What a command can say -/

/-- The command can send the operation in a delta of the hub. -/
def Changes (cmd : Command) (hub : HubId) : DeltaOp → Prop
  | .hubUpsert _ => ∃ conn name seed, cmd = .request (.updateHub conn hub name seed)
  | .hubRemove =>
    (∃ conn, cmd = .request (.deleteHub conn hub)) ∨ (∃ conn, cmd = .request (.leaveHub conn hub)) ∨
      ∃ conn target, cmd = .request (.kickHubMember conn hub target)
  | .joinCodeSet _ =>
    (∃ conn target, cmd = .request (.kickHubMember conn hub target)) ∨
      ∃ conn, cmd = .request (.getHubInvite conn hub)
  | .memberUpsert user role =>
    (∃ conn code, cmd = .request (.joinHubByInvite conn code)) ∨
      ∃ conn desired, cmd = .request (.updateHubMemberRole conn hub user desired) ∧
        parseTargetRole desired = some role
  | .memberRemove user =>
    (∃ conn, cmd = .request (.leaveHub conn hub)) ∨
      ∃ conn, cmd = .request (.kickHubMember conn hub user)
  | .channelUpsert _ =>
    (∃ conn type name, cmd = .request (.createChannel conn hub type name)) ∨
      ∃ conn channel name, cmd = .request (.renameChannel conn hub channel name)
  | .channelRemove _ => ∃ conn channel, cmd = .request (.removeChannel conn hub channel)
  | .messageAppend channel _ =>
    ∃ conn msg, cmd = .sendMessage conn msg ∧ msg.hubId = hub ∧ msg.channelId = channel
  | .messageBatch channel _ =>
    ∃ conn cursor limit, cmd = .request (.selectActiveChannel conn hub channel cursor limit)
  | .voiceUpsert channel _ _ _ =>
    ∃ conn muted deafened, cmd = .voiceActivity conn hub channel muted deafened

/-- The command can send the notice to these connections. -/
def Tells (cmd : Command) (out : Outgoing) : Prop :=
  match out.notice with
  | .stateSync _ =>
    (∃ conn user, cmd = .request (.bootstrap conn user) ∧ out.targets = [conn]) ∨
      (∃ conn name, cmd = .request (.createHub conn name)) ∨
      ∃ conn code, cmd = .request (.joinHubByInvite conn code)
  | .stateDelta delta => ∀ op ∈ delta.ops, cmd.Changes delta.hubId op
  | .presence _ user isOnline =>
    (isOnline = true ∧ ∃ conn, cmd = .request (.bootstrap conn user)) ∨
      (isOnline = false ∧ ∃ conn, cmd = .request (.disconnect conn))
  | .voiceSelfStatus _ _ =>
    (∃ conn user, cmd = .request (.bootstrap conn user)) ∨
      ∃ conn hub channel muted deafened, cmd = .voiceActivity conn hub channel muted deafened
  | .authUpdate _ | .authOk =>
    ∃ conn token resumes, cmd = .request (.authenticate conn token resumes) ∧ out.targets = [conn]
  | .refused _ => out.targets = [cmd.conn]

/-- Everything the worker pushes for the answer is something the command can say. -/
def Says (cmd : Command) (reply : Reply) : Prop := ∀ out ∈ reply.outgoing cmd.conn, cmd.Tells out

variable {cmd : Command}

theorem says_nothing : cmd.Says .done := nofun

theorem says_one {out : Outgoing} (tells : cmd.Tells out) : cmd.Says (.done [out]) := by
  intro other listed
  obtain rfl := List.mem_singleton.mp listed
  exact tells

theorem says_append {first second : List Outgoing} (one : cmd.Says (.done first))
    (other : cmd.Says (.done second)) : cmd.Says (.done (first ++ second)) := by
  intro out listed
  rcases List.mem_append.mp listed with here | there
  · exact one out here
  · exact other out there

theorem says_toAny {conns : List GlobalConnId} {notice : Notice}
    (tells : cmd.Tells ⟨conns, notice⟩) : cmd.Says (.done (Outgoing.toAny conns notice)) := by
  intro out listed
  obtain ⟨-, rfl⟩ := Outgoing.mem_toAny.mp listed
  exact tells

theorem says_delta {hub : HubId} (changes : ∀ op ∈ ops, cmd.Changes hub op) :
    cmd.Says (.done (Outgoing.delta conns hub ops)) := says_toAny changes

theorem says_change {conns : List GlobalConnId} {hub : HubId} {op : DeltaOp}
    (changes : cmd.Changes hub op) : cmd.Says (.done (Outgoing.delta conns hub [op])) :=
  says_delta (List.forall_mem_singleton.mpr changes)

end Command

namespace Footprint

variable {r : Request} {α : Type}

theorem reads_makes (c : HubCall) (reads : c.Reads) : r.Makes c := by
  cases c with
  | cache c => trivial
  | database d => exact .inl reads
  | session c | subscription c | outside c => exact reads.elim

theorem plain_makes (c : HubCall) (plain : c.Plain) : r.Makes c := reads_makes c plain.reads

theorem ask_makes {c : HubCall} (makes : r.Makes c) :
    (Prog.ask c : HubProg c.Answer).Only r.Makes := .ask makes

/-! ## The writes of `HubService` -/

section Writes

variable {hub : HubId} {user : UserId} {role : Role} {channel : ChannelId} {type : ChannelType}
  {name : String}

theorem writes_makes (writes : r.Writes d) : (database d).Only r.Makes :=
  ask_makes (.inr writes)

theorem cache_makes (c : CacheCall) : (cache c).Only r.Makes := ask_makes trivial

section Plain

variable {P : HubCall → Prop} (plain : ∀ c : HubCall, c.Plain → P c)

include plain

theorem createHub_only (writes : P (.database (.createHub user name))) :
    (HubService.createHub user name).Only P := by
  refine .bind (.ask writes) fun hub => ?_
  exact .bind (.ask (plain _ trivial)) fun _ => trivial

theorem renameChannel_only (writes : P (.database (.renameChannel channel name))) :
    (HubService.renameChannel channel name).Only P := by
  refine .bind (.ask writes) fun renamed => ?_
  cases renamed with
  | false => trivial
  | true =>
    refine .bind (.ask (plain _ trivial)) fun found => ?_
    cases found with
    | none | some info => exact .bind (.ask (plain _ trivial)) fun _ => trivial

theorem renameHub_only (writes : P (.database (.renameHub hub name))) :
    (HubService.renameHub hub name).Only P := by
  refine .bind (.ask writes) fun renamed => ?_
  cases renamed with
  | false => trivial
  | true => exact .bind (.ask (plain _ trivial)) fun _ => trivial

theorem updateHubAvatarSeed_only (writes : P (.database (.updateHubAvatarSeed hub name))) :
    (HubService.updateHubAvatarSeed hub name).Only P := by
  refine .bind (.ask writes) fun updated => ?_
  cases updated with
  | false => trivial
  | true => exact .bind (.ask (plain _ trivial)) fun _ => trivial

end Plain

theorem createChannel_only {P : HubCall → Prop} (caches : ∀ c, P (.cache c))
    (writes : P (.database (.createChannel hub type name))) :
    (HubService.createChannel hub type name).Only P := by
  refine .bind (.ask writes) fun id => ?_
  refine .bind (.ask (caches _)) fun _ => ?_
  refine .bind (.ask (caches _)) fun found => ?_
  cases found with
  | none => trivial
  | some snapshot =>
    dsimp only
    split
    · trivial
    · exact .bind (.ask (caches _)) fun _ => trivial

theorem deleteChannel_makes (writes : r.Writes (.deleteChannel channel hub)) :
    (HubService.deleteChannel channel hub).Only r.Makes := by
  refine .bind (writes_makes writes) fun deleted => ?_
  cases deleted with
  | false => trivial
  | true =>
    refine .bind (cache_makes _) fun _ => ?_
    refine .bind (cache_makes _) fun found => ?_
    cases found with
    | none => trivial
    | some snapshot => exact .bind (cache_makes _) fun _ => trivial

theorem deleteHub_makes (writes : r.Writes (.deleteHub hub user)) :
    (HubService.deleteHub hub user).Only r.Makes := by
  refine .bind ((HubService.getHubChannelIds_reads hub).mono reads_makes) fun channelIds => ?_
  refine .bind (writes_makes writes) fun deleted => ?_
  cases deleted with
  | false => trivial
  | true =>
    refine .bind (cache_makes _) fun _ => ?_
    exact .bind (.forEach fun _ _ => cache_makes _) fun _ => trivial

end Writes

end Footprint

open Footprint in
theorem Request.Part.makes {r : Request} ⦃α : Type⦄ (p : HubProg α) (part : r.Part p) :
    p.Only r.Makes := by
  cases part with
  | ask asks =>
    rename_i c
    refine ask_makes ?_
    cases c with
    | cache c | database d => exact asks.elim
    | session c | subscription c => exact asks
    | outside c =>
      cases c with
      | createInvite hub => exact asks.elim
      | _ => trivial
  | invite invites => exact ask_makes invites
  | plain plain => exact plain.mono plain_makes
  | getMembershipRole hub user => exact (HubService.getMembershipRole_reads hub user).mono reads_makes
  | isHubMember hub user => exact (HubService.isHubMember_reads hub user).mono reads_makes
  | getHubChannelIds hub => exact (HubService.getHubChannelIds_reads hub).mono reads_makes
  | syncForUser user =>
    exact Handlers.buildStateSyncForUser_only reads_makes (fun _ => trivial) (fun _ => trivial) user
  | syncForHubs user hubs =>
    exact Handlers.buildStateSyncForRequestedHubs_only reads_makes (fun _ => trivial)
      (fun _ => trivial) user hubs
  | createHub writes => exact createHub_only plain_makes (.inr writes)
  | createChannel writes => exact createChannel_only (fun _ => trivial) (.inr writes)
  | renameChannel writes => exact renameChannel_only plain_makes (.inr writes)
  | deleteChannel writes => exact deleteChannel_makes writes
  | renameHub writes => exact renameHub_only plain_makes (.inr writes)
  | updateHubAvatarSeed writes => exact updateHubAvatarSeed_only plain_makes (.inr writes)
  | deleteHub writes => exact deleteHub_makes writes
  | addMember writes | removeMember writes =>
    exact .bind (writes_makes writes) fun _ => cache_makes _

/-! ## The handlers -/

namespace Footprint

open Command (says_nothing says_one says_append says_toAny says_delta says_change)

/-- The handler is made of parts the request allows, and says what it may say. -/
abbrev Composed (r : Request) (p : HubProg Reply) : Prop :=
  p.Composed r.Part (Command.request r).Says

variable {r : Request}

theorem getChannel_part (channel : ChannelId) : r.Part (HubService.getChannel channel) :=
  .plain (HubService.getChannel_plain channel)

/-- A loop that gathers notices. -/
theorem gather {Call Err β : Type} {Answer : Call → Type} {items : List β} {cmd : Command}
    {Part : ∀ ⦃γ : Type⦄, Prog Call Answer Err γ → Prop}
    {body : β → Prog Call Answer Err (List Outgoing)}
    {f : List (List Outgoing) → Prog Call Answer Err Reply}
    (each : ∀ b, (body b).Composed Part fun told => cmd.Says (.done told))
    (rest : ∀ told, cmd.Says (.done told.flatten) → (f told).Composed Part cmd.Says) :
    (Prog.collect body items >>= f).Composed Part cmd.Says :=
  .bind (.collect each) fun told each => rest told fun out listed => by
    obtain ⟨part, member, here⟩ := List.mem_flatten.mp listed
    exact each part member out here

theorem refused {Call Err : Type} {Answer : Call → Type} {cmd : Command}
    {Part : ∀ ⦃γ : Type⦄, Prog Call Answer Err γ → Prop} {refusal : VoiceState.Refusal} :
    (pure (.refused refusal) : Prog Call Answer Err Reply).Composed Part cmd.Says :=
  .pure fun _ listed => List.mem_singleton.mp listed ▸ rfl

/-- A question whose failure is refused. -/
theorem answered {β ε : Type} {p : HubProg (Except ε β)} {f : Except ε β → HubProg Reply}
    {refusal : ε → VoiceState.Refusal} (part : r.Part p)
    (failed : ∀ {e}, f (.error e) = pure (.refused (refusal e)))
    (rest : ∀ b, Composed r (f (.ok b))) : Composed r (p >>= f) := by
  refine .next part fun answer => ?_
  cases answer with
  | error e => exact failed ▸ refused
  | ok b => exact rest b

/-- A lookup that is refused when it finds nothing. -/
theorem found {β : Type} {p : HubProg (Option β)} {f : Option β → HubProg Reply}
    {refusal : VoiceState.Refusal} (part : r.Part p) (missing : f none = pure (.refused refusal))
    (rest : ∀ b, Composed r (f (some b))) : Composed r (p >>= f) := by
  refine .next part fun answer => ?_
  cases answer with
  | none => exact missing ▸ refused
  | some b => exact rest b

/-- A request that is refused on a condition. -/
theorem guarded {p : Prop} [Decidable p] {refusal : VoiceState.Refusal} {f : HubProg Reply}
    (rest : ¬ p → Composed r f) : Composed r (if p then pure (.refused refusal) else f) := by
  split
  · exact refused
  · rename_i fine
    exact rest fine

/-! ### Sessions -/

section

variable (conn : GlobalConnId)

theorem authenticate_composed (token : String) (resumes : Bool) :
    Composed (.authenticate conn token resumes) (Handlers.authenticate conn token resumes) := by
  have failed : (Command.request (.authenticate conn token resumes)).Says .authFailed := by
    intro out listed
    obtain rfl := List.mem_singleton.mp listed
    exact ⟨conn, token, resumes, rfl, rfl⟩
  have accepted (user : UserId) : (Command.request (.authenticate conn token resumes)).Says
      (Handlers.authenticated conn user) := by
    intro out listed
    rcases List.mem_cons.mp listed with rfl | later
    · exact ⟨conn, token, resumes, rfl, rfl⟩
    · obtain rfl := List.mem_singleton.mp later
      exact ⟨conn, token, resumes, rfl, rfl⟩
  unfold Handlers.authenticate
  split
  · exact .pure failed
  · refine .next (.ask trivial) fun claims => ?_
    cases claims with
    | none => exact .pure failed
    | some user =>
      refine .next (.ask trivial) fun existing => ?_
      cases existing with
      | ok known =>
        dsimp only
        split
        · exact .pure failed
        · exact .pure (accepted user)
      | error missing =>
        refine answered (.ask ⟨token, resumes, rfl⟩) rfl fun sessionId => ?_
        dsimp only
        split
        · refine .next (.ask trivial) fun _ => ?_
          exact .next (.ask trivial) fun _ => .pure (accepted user)
        · exact .next (.ask trivial) fun _ => .pure (accepted user)

theorem announce_composed (user : UserId) (sync : List HubSync) (hubs : List HubId) :
    Composed (.bootstrap conn user) (Handlers.announce conn user sync hubs) := by
  have own (status : Notice) (is : ∃ channel hub, status = .voiceSelfStatus channel hub) :
      (Command.request (.bootstrap conn user)).Says
        (.done [.one conn (.stateSync sync), .one conn status]) := by
    obtain ⟨channel, hub, rfl⟩ := is
    intro out listed
    rcases List.mem_cons.mp listed with rfl | later
    · exact .inl ⟨conn, user, rfl, rfl⟩
    · obtain rfl := List.mem_singleton.mp later
      exact .inl ⟨conn, user, rfl⟩
  have asked : (Handlers.voiceStatus user).Composed (Request.bootstrap conn user).Part
      fun status => ∃ channel hub, status = .voiceSelfStatus channel hub := by
    refine .next (.ask trivial) fun channel => ?_
    cases channel with
    | none => exact .pure ⟨none, none, rfl⟩
    | some channel => exact .next (getChannel_part channel) fun info => .pure ⟨_, _, rfl⟩
  refine .bind asked fun status is => ?_
  refine .next (.ask trivial) fun conns => ?_
  split
  · exact .pure (own status is)
  · refine gather (fun hub => ?_) fun told each => .pure (says_append (own status is) each)
    refine .next (.ask trivial) fun subs => ?_
    exact .pure (says_toAny (.inl ⟨rfl, conn, rfl⟩))

theorem bootstrap_composed (user : UserId) :
    Composed (.bootstrap conn user) (Handlers.bootstrap conn user) := by
  unfold Handlers.bootstrap
  refine guarded fun _ => ?_
  refine answered (.ask trivial) rfl fun sessionId => ?_
  refine .next (.syncForUser user) fun sync => ?_
  refine .after (.forEach fun hub => ?_) fun _ => announce_composed conn user sync _
  exact .next (.ask ⟨rfl, hub, rfl⟩) fun _ => .pure trivial

theorem disconnect_composed : Composed (.disconnect conn) (Handlers.disconnect conn) := by
  refine .next (.ask trivial) fun known => ?_
  cases known with
  | error missing => exact .pure says_nothing
  | ok user =>
    refine .next (.ask trivial) fun found => ?_
    cases found with
    | error missing => exact .pure says_nothing
    | ok sessionId =>
      refine .next (.ask trivial) fun topics => ?_
      refine .next (.ask rfl) fun _ => ?_
      refine .next (.ask rfl) fun _ => ?_
      refine .next (.ask trivial) fun stays => ?_
      split
      · exact .pure says_nothing
      · refine .next (.ask trivial) fun _ => ?_
        refine gather (fun hub => ?_) fun told each => .pure each
        refine .next (.ask trivial) fun subs => ?_
        exact .pure (says_toAny (.inr ⟨rfl, conn, rfl⟩))

/-! ### Channels -/

theorem selectActiveChannel_composed (hub : HubId) (channel : ChannelId) (cursor : Option Nat)
    (latestLimit : Nat) :
    Composed (.selectActiveChannel conn hub channel cursor latestLimit)
      (Handlers.selectActiveChannel conn hub channel cursor latestLimit) := by
  have batched (states : List Message) :
      (Command.request (.selectActiveChannel conn hub channel cursor latestLimit)).Says
        (Handlers.batch conn hub channel states) :=
    says_one (List.forall_mem_singleton.mpr ⟨conn, cursor, latestLimit, rfl⟩)
  unfold Handlers.selectActiveChannel
  refine guarded fun _ => ?_
  refine answered (.ask trivial) rfl fun user => ?_
  refine found (getChannel_part channel) rfl fun info => ?_
  refine guarded fun _ => ?_
  refine guarded fun _ => ?_
  refine .next (.isHubMember hub user) fun member => ?_
  split
  · refine .after (.next (.ask ⟨rfl, rfl⟩) fun _ => .pure trivial) fun _ => ?_
    refine .next (.ask trivial) fun _ => ?_
    refine guarded fun _ => ?_
    refine found (.ask trivial) rfl fun messages => ?_
    dsimp only
    split
    · exact .pure (batched _)
    · split
      · exact .pure says_nothing
      · exact .pure (batched _)
  · exact refused

end

theorem addChannel_composed {hub : HubId} {type : ChannelType} {name : String}
    (writes : r.Writes (.createChannel hub type name))
    (changes : ∀ channel, (Command.request r).Changes hub (.channelUpsert channel)) :
    Composed r (Handlers.addChannel hub type name) := by
  refine .next (.getHubChannelIds hub) fun ids => ?_
  refine guarded fun _ => ?_
  refine .next (.plain (HubService.getChannelsByIds_plain _)) fun existing => ?_
  refine guarded fun _ => ?_
  refine .next_attempt (.createChannel writes) fun created => ?_
  match created with
  | .error .unknown => exact refused
  | .error (.exception what) =>
    dsimp only
    split <;> exact refused
  | .ok id => exact .next (.ask trivial) fun subs => .pure (says_change (changes _))

section

variable (conn : GlobalConnId)

theorem createChannel_composed (hub : HubId) (type : Option ChannelType) (name : String) :
    Composed (.createChannel conn hub type name) (Handlers.createChannel conn hub type name) := by
  refine answered (.ask trivial) rfl fun user => ?_
  refine guarded fun _ => ?_
  cases type with
  | none => exact refused
  | some type =>
    cases checked : checkText "Channel name" 80 name with
    | error refusal => exact refused
    | ok text =>
      have added : Composed (.createChannel conn hub (some type) name)
          (Handlers.addChannel hub type text) :=
        addChannel_composed ⟨rfl, checked⟩ fun _ => .inl ⟨conn, some type, name, rfl⟩
      refine .next (.getMembershipRole hub user) fun role => ?_
      match role with
      | none | some .user => exact refused
      | some .admin | some .owner => exact added

theorem giveName_composed {channel : Channel} {name : String}
    (writes : r.Writes (.renameChannel channel.id name))
    (changes : ∀ named, (Command.request r).Changes channel.hubId (.channelUpsert named)) :
    Composed r (Handlers.giveName channel name) := by
  refine .next (.getHubChannelIds _) fun ids => ?_
  refine .next (.plain (HubService.getChannelsByIds_plain _)) fun existing => ?_
  refine guarded fun _ => ?_
  refine .next_attempt (.renameChannel writes) fun renamed => ?_
  match renamed with
  | .error .unknown => exact .raise
  | .error (.exception what) =>
    dsimp only
    split <;> exact refused
  | .ok false => exact refused
  | .ok true => exact .next (.ask trivial) fun subs => .pure (says_change (changes _))

theorem renameChannel_composed (hub : HubId) (channel : ChannelId) (name : Option String) :
    Composed (.renameChannel conn hub channel name)
      (Handlers.renameChannel conn hub channel name) := by
  refine answered (.ask trivial) rfl fun user => ?_
  refine guarded fun _ => ?_
  refine found (getChannel_part channel) rfl fun info => ?_
  refine guarded fun here => ?_
  rw [not_not] at here
  cases name with
  | none => exact refused
  | some name =>
    dsimp only
    cases checked : checkText "Channel name" 80 name with
    | error refusal => exact refused
    | ok text =>
      have named : Composed (.renameChannel conn hub channel (some name))
          (Handlers.giveName info text) :=
        giveName_composed ⟨name, rfl, checked⟩ fun _ =>
          .inr ⟨conn, channel, some name, by rw [here]⟩
      refine .next (.getMembershipRole _ user) fun role => ?_
      match role with
      | none | some .user => exact refused
      | some .admin | some .owner => exact named

theorem removeChannel_composed (hub : HubId) (channel : ChannelId) :
    Composed (.removeChannel conn hub channel) (Handlers.removeChannel conn hub channel) := by
  refine answered (.ask trivial) rfl fun user => ?_
  refine guarded fun _ => ?_
  refine found (getChannel_part channel) rfl fun info => ?_
  refine guarded fun _ => ?_
  refine .next (.getMembershipRole hub user) fun role => ?_
  match role with
  | none | some .user | some .admin => exact refused
  | some .owner =>
    refine .next (.deleteChannel rfl) fun deleted => ?_
    cases deleted with
    | false => exact refused
    | true =>
      refine .next (.ask ⟨info.id, rfl⟩) fun _ => ?_
      exact .next (.ask trivial) fun subs => .pure (says_change ⟨conn, channel, rfl⟩)

/-! ### Hubs -/

theorem ownConnections_composed (user : UserId) :
    (Handlers.ownConnections conn user).Composed r.Part fun _ => True := by
  refine .next (.ask trivial) fun conns => ?_
  split <;> exact .pure trivial

end

theorem enterHub_composed {user : UserId} {hub : HubId}
    (subscribes : ∀ k, r.Subscribes k (.hubTopic hub)) :
    (Handlers.enterHub conn user hub).Composed r.Part
      fun out => ∃ sync, out.notice = .stateSync sync := by
  refine .after (ownConnections_composed conn user) fun conns => ?_
  refine .after (.forEach fun k => ?_) fun _ => ?_
  · exact .next (.ask (subscribes k)) fun _ => .pure trivial
  · exact .next (.syncForHubs user [hub]) fun sync => .pure ⟨sync, rfl⟩

section

variable (conn : GlobalConnId)

theorem createHub_composed (name : String) :
    Composed (.createHub conn name) (Handlers.createHub conn name) := by
  refine answered (.ask trivial) rfl fun user => ?_
  cases checked : checkText "Hub name" 80 name with
  | error refusal => exact refused
  | ok text =>
    refine .next_attempt (.createHub checked) fun created => ?_
    match created with
    | .error .unknown => exact refused
    | .error (.exception what) =>
      dsimp only
      split <;> exact refused
    | .ok hub =>
      refine .next_attempt (.createChannel rfl) fun _ => ?_
      refine .bind (enterHub_composed fun _ => ⟨hub.id, rfl⟩) fun entered synced => ?_
      obtain ⟨sync, is⟩ := synced
      refine .pure (says_one ?_)
      rw [Command.Tells, is]
      exact .inr (.inl ⟨conn, name, rfl⟩)

theorem writeAsked_composed {write : String → HubProg Bool} {asked : Option String}
    (writes : ∀ text ∈ asked, r.Part (write text)) :
    (Handlers.writeAsked write asked).Composed r.Part fun _ => True := by
  cases asked with
  | none => exact .pure trivial
  | some text => exact .part (writes text rfl) Prog.yields_true

variable (hub : HubId)

theorem updateHub_composed (name seed : Option String) :
    Composed (.updateHub conn hub name seed) (Handlers.updateHub conn hub name seed) := by
  have changed {name' seed' : Option String}
      (checked : Handlers.checkProfile name seed = .ok (name', seed')) :
      Composed (.updateHub conn hub name seed) (Handlers.changeProfile hub name' seed') := by
    obtain ⟨named, seeded⟩ := Handlers.checkProfile_ok checked
    have writes : (Handlers.writeProfile hub name' seed').Composed
        (Request.updateHub conn hub name seed).Part fun _ => True := by
      refine .after (writeAsked_composed fun text asked =>
        .renameHub ⟨rfl, Handlers.checkAsked_ok named text asked⟩) fun renamed => ?_
      cases renamed with
      | false => exact .pure trivial
      | true =>
        refine .after (writeAsked_composed fun text asked =>
          .updateHubAvatarSeed ⟨rfl, Handlers.checkAsked_ok seeded text asked⟩) fun updated => ?_
        cases updated <;> exact .pure trivial
    refine .bind (.attempt writes) fun written _ => ?_
    match written with
    | .error .unknown => exact refused
    | .error (.exception what) =>
      dsimp only
      split <;> exact refused
    | .ok (some failure) => exact refused
    | .ok none =>
      refine .next (.plain (HubService.getHub_plain hub)) fun found => ?_
      cases found with
      | none => exact .pure says_nothing
      | some updated =>
        exact .next (.ask trivial) fun subs => .pure (says_change ⟨conn, name, seed, rfl⟩)
  refine answered (.ask trivial) rfl fun user => ?_
  cases checked : Handlers.checkProfile name seed with
  | error refusal => exact refused
  | ok texts =>
    refine .next (.getMembershipRole hub user) fun role => ?_
    match role with
    | none | some .user => exact refused
    | some .admin | some .owner => exact changed checked

theorem deleteHub_composed : Composed (.deleteHub conn hub) (Handlers.deleteHub conn hub) := by
  refine answered (.ask trivial) rfl fun user => ?_
  refine .next (.getMembershipRole hub user) fun role => ?_
  match role with
  | none | some .user | some .admin => exact refused
  | some .owner =>
    refine .next (.getHubChannelIds hub) fun ids => ?_
    have erases : (Handlers.eraseHub hub user).Composed (Request.deleteHub conn hub).Part
        fun _ => True := by
      refine .next (.deleteHub rfl) fun deleted => ?_
      cases deleted with
      | false => exact .pure trivial
      | true => exact .next (.ask trivial) fun _ => .pure trivial
    refine .bind (.attempt erases) fun erased _ => ?_
    match erased with
    | .error .unknown => exact .raise
    | .error (.exception what) | .ok false => exact refused
    | .ok true =>
      refine .next (.ask trivial) fun subs => ?_
      refine .next (.ask (.inl rfl)) fun _ => ?_
      refine .after (.forEach fun channel => ?_) fun _ => .pure (says_change (.inl ⟨conn, rfl⟩))
      exact .part (.ask (.inr ⟨channel, rfl⟩)) Prog.yields_true

/-! ### Members -/

theorem joinHubByInvite_composed (code : String) :
    Composed (.joinHubByInvite conn code) (Handlers.joinHubByInvite conn code) := by
  have synced {out : Outgoing} (is : ∃ sync, out.notice = .stateSync sync) :
      (Command.request (.joinHubByInvite conn code)).Tells out := by
    obtain ⟨sync, is⟩ := is
    rw [Command.Tells, is]
    exact .inr (.inr ⟨conn, code, rfl⟩)
  refine answered (.ask trivial) rfl fun user => ?_
  refine found (.ask trivial) rfl fun hub => ?_
  refine .next (.getMembershipRole hub user) fun role => ?_
  cases role with
  | some role =>
    refine .bind (enterHub_composed fun _ => ⟨hub, rfl⟩) fun entered is => ?_
    exact .pure (says_one (synced is))
  | none =>
    refine found (.plain (HubService.getHub_plain hub)) rfl fun info => ?_
    refine .next_attempt (.addMember rfl) fun added => ?_
    cases added with
    | error thrown => exact refused
    | ok _ =>
      refine .bind (enterHub_composed fun _ => ⟨hub, rfl⟩) fun entered is => ?_
      refine .next (.ask trivial) fun subs => .pure ?_
      exact says_append (says_one (synced is)) (says_change (.inl ⟨conn, code, rfl⟩))

theorem evict_composed {hub : HubId}
    (unsubscribes : ∀ topic, topic.OfHub hub → r.Unsubscribes topic)
    (changes : ∀ op ∈ ops, (Command.request r).Changes hub op)
    (removes : (Command.request r).Changes hub .hubRemove) :
    Composed r (Handlers.evict hub conns ops) := by
  refine .next (.getHubChannelIds hub) fun channels => ?_
  refine .after (.forEach fun k => ?_) fun _ => ?_
  · refine .after (.next (.ask (unsubscribes _ (.inl rfl))) fun _ => .pure trivial) fun _ => ?_
    refine .forEach fun channel => ?_
    exact .next (.ask (unsubscribes _ (.inr ⟨channel, rfl⟩))) fun _ => .pure trivial
  · refine .next (.ask trivial) fun subs => .pure ?_
    exact says_append (says_delta changes) (says_change removes)

theorem leaveHub_composed : Composed (.leaveHub conn hub) (Handlers.leaveHub conn hub) := by
  have left (user : UserId) :
      Composed (.leaveHub conn hub) (Handlers.giveUpMembership conn hub user) := by
    refine .next_attempt (.removeMember rfl) fun removed => ?_
    match removed with
    | .error .unknown | .error (.exception what) => exact refused
    | .ok _ =>
      refine .after (ownConnections_composed conn user) fun conns => ?_
      apply evict_composed
      · exact fun _ => id
      · exact List.forall_mem_singleton.mpr (.inl ⟨conn, rfl⟩)
      · exact .inr (.inl ⟨conn, rfl⟩)
  refine answered (.ask trivial) rfl fun user => ?_
  refine .next (.getMembershipRole hub user) fun role => ?_
  match role with
  | none => exact refused
  | some .user | some .admin => exact left user
  | some .owner => exact refused

variable (target : UserId)

theorem authorizeKick_composed :
    (Handlers.authorizeKick conn hub target).Composed r.Part fun _ => True := by
  refine .next (.ask trivial) fun known => ?_
  cases known with
  | error missing => exact .pure trivial
  | ok actor =>
    dsimp only
    split
    · exact .pure trivial
    · refine .next (.getMembershipRole hub actor) fun own => ?_
      cases own with
      | none => exact .pure trivial
      | some own =>
        refine .next (.getMembershipRole hub target) fun held => ?_
        cases held with
        | none => exact .pure trivial
        | some held =>
          dsimp only
          split <;> exact .pure trivial

theorem kickFromVoice_composed :
    (Handlers.kickFromVoice hub target).Composed r.Part fun _ => True := by
  refine .next (.ask trivial) fun seat => ?_
  cases seat with
  | none => exact .pure trivial
  | some channel =>
    refine .next (getChannel_part channel) fun found => ?_
    cases found with
    | none => exact .pure trivial
    | some info =>
      dsimp only
      split
      · exact .part (.ask trivial) Prog.yields_true
      · exact .pure trivial

theorem kickHubMember_composed :
    Composed (.kickHubMember conn hub target) (Handlers.kickHubMember conn hub target) := by
  refine .after (authorizeKick_composed conn hub target) fun allowed => ?_
  cases allowed with
  | error refusal => exact refused
  | ok _ =>
    refine .after (kickFromVoice_composed hub target) fun kicked => ?_
    cases kicked with
    | false => exact refused
    | true =>
      refine .next_attempt (.removeMember ⟨rfl, rfl⟩) fun removed => ?_
      cases removed with
      | error thrown => exact refused
      | ok _ =>
        refine .next_attempt (.ask trivial) fun _ => ?_
        refine .next (.ask trivial) fun conns => ?_
        apply evict_composed
        · exact fun _ => id
        · refine List.forall_mem_cons.mpr ⟨.inr ⟨conn, rfl⟩, ?_⟩
          exact List.forall_mem_singleton.mpr (.inl ⟨conn, target, rfl⟩)
        · exact .inr (.inr ⟨conn, target, rfl⟩)

theorem updateHubMemberRole_composed (role : HubRole) :
    Composed (.updateHubMemberRole conn hub target role)
      (Handlers.updateHubMemberRole conn hub target role) := by
  refine answered (.ask trivial) rfl fun actor => ?_
  refine guarded fun _ => ?_
  cases parsed : parseTargetRole role with
  | none => exact refused
  | some desired =>
    refine found (.getMembershipRole hub actor) rfl fun own => ?_
    refine found (.getMembershipRole hub target) rfl fun held => ?_
    dsimp only
    split
    · refine .next_attempt (.addMember ⟨rfl, rfl, parsed⟩) fun added => ?_
      match added with
      | .error .unknown | .error (.exception what) => exact refused
      | .ok _ =>
        refine .next (.ask trivial) fun subs => .pure (says_change ?_)
        exact .inr ⟨conn, role, rfl, parsed⟩
    · exact refused

theorem getHubInvite_composed :
    Composed (.getHubInvite conn hub) (Handlers.getHubInvite conn hub) := by
  refine answered (.ask trivial) rfl fun user => ?_
  refine found (.getMembershipRole hub user) rfl fun role => ?_
  dsimp only
  split
  · refine .next (.invite rfl) fun code => ?_
    refine .after (ownConnections_composed conn user) fun conns => ?_
    exact .pure (says_one (List.forall_mem_singleton.mpr (.inr ⟨conn, rfl⟩)))
  · exact refused

end

end Footprint

open Footprint in
/-- **What a request's handler is made of**, and what it says. -/
theorem Request.prog_composed (r : Request) :
    r.prog.Composed r.Part (Command.request r).Says := by
  cases r with
  | authenticate conn token resumes => exact authenticate_composed conn token resumes
  | bootstrap conn user => exact bootstrap_composed conn user
  | disconnect conn => exact disconnect_composed conn
  | selectActiveChannel conn hub channel cursor latestLimit =>
    exact selectActiveChannel_composed conn hub channel cursor latestLimit
  | createChannel conn hub type name => exact createChannel_composed conn hub type name
  | renameChannel conn hub channel name => exact renameChannel_composed conn hub channel name
  | removeChannel conn hub channel => exact removeChannel_composed conn hub channel
  | createHub conn name => exact createHub_composed conn name
  | updateHub conn hub name seed => exact updateHub_composed conn hub name seed
  | deleteHub conn hub => exact deleteHub_composed conn hub
  | joinHubByInvite conn code => exact joinHubByInvite_composed conn code
  | leaveHub conn hub => exact leaveHub_composed conn hub
  | kickHubMember conn hub target => exact kickHubMember_composed conn hub target
  | updateHubMemberRole conn hub target role =>
    exact updateHubMemberRole_composed conn hub target role
  | getHubInvite conn hub => exact getHubInvite_composed conn hub

/-- **A request makes no calls but its own.** -/
theorem Request.prog_makes (r : Request) : r.prog.Only r.Makes :=
  r.prog_composed.only Request.Part.makes

/-! ## The other commands -/

/-- The call looks something up. -/
def HubCall.Looks : HubCall → Prop
  | .session (.sessionOfConnection _) | .session (.sessionIdOfConnection _) => True
  | .subscription (.getSubscribers _) => True
  | .cache _ => True
  | .database d => d.Reads
  | _ => False

/-- The command may make the call. -/
def Command.Makes : Command → ServerCall → Prop
  | request r, .inl c => r.Makes c
  | sendMessage _ _, .inl c | voiceActivity _ _ _ _ _, .inl c => c.Looks
  | sendMessage _ cmd, .inr (.sendMessage draft) | sendMessage _ cmd, .inr (.enqueue draft) =>
    draft.channelId = cmd.channelId
  | sendMessage _ _, .inr (.arrive _) => True
  | voiceActivity _ _ _ _ deafened, .inr (.setDeafened _ flag) => flag = deafened
  | voiceActivity _ _ _ muted deafened, .inr (.setMuted _ flag) => flag = (muted || deafened)
  | voiceActivity _ _ channel _ _, .inr (.participantsInChannel asked) => asked = channel
  | voiceActivity _ _ _ _ _, .inr (.userChannel _) => True
  | voiceActivity _ _ _ _ _, .inr (.userSession _) => True
  | voiceActivity _ _ _ _ _, .inr (.getUserSessionIds _) => True
  | voiceActivity _ _ _ _ _, .inr (.getSessionIdConnections _) => True
  | writeNext, .inr .writeNext => True
  | request _, .inr (.push _) | sendMessage _ _, .inr (.push _)
  | voiceActivity _ _ _ _ _, .inr (.push _) => True
  | _, _ => False

/-- The command's handler may make the call; the pushes come after it. -/
def Command.Handles (cmd : Command) (c : ServerCall) : Prop :=
  cmd.Makes c ∧ ∀ out, c ≠ .inr (.push out)

namespace Footprint

open Command (says_nothing says_append says_toAny says_change)

variable {P : ServerCall → Prop}

theorem desk_only {c : DeskCall} (allowed : P (.inr c)) : (desk c).Only P :=
  .ask allowed

theorem hub_only {c : HubCall} (allowed : P (.inl c)) : (hub (Prog.ask c)).Only P := by
  apply Prog.Only.lift (Prog.Only.ask (P := (· = c)) rfl)
  rintro _ rfl
  exact allowed

theorem looks_only {α : Type} {p : HubProg α} (reads : p.Only HubCall.Reads) :
    p.Only HubCall.Looks := by
  refine reads.mono fun c is => ?_
  cases c with
  | cache c => trivial
  | database d => exact is
  | session c | subscription c | outside c => exact absurd is id

theorem look_only {c : HubCall} (looks : c.Looks) :
    (Prog.ask c : HubProg c.Answer).Only HubCall.Looks := .ask looks

theorem serve_only (only : handler.Only P)
    (pushes : ∀ out, P (.inr (.push out))) : (serve conn handler).Only P := by
  refine .bind only fun reply => ?_
  exact .bind (.forEach fun out _ => desk_only (pushes out)) fun _ => trivial

/-- The parts of a handler that the commands do not share: any program that makes the calls. -/
abbrev Within {Call : Type} {Answer : Call → Type} {Err : Type} (P : Call → Prop) ⦃α : Type⦄
    (p : Prog Call Answer Err α) : Prop := p.Only P

theorem draftMessage_composed (conn : GlobalConnId) (cmd : SendMessage) :
    (Handlers.draftMessage conn cmd).Composed (Within HubCall.Looks) fun result =>
      ∀ draft, result = .ok draft → draft.channelId = cmd.channelId := by
  unfold Handlers.draftMessage
  split
  · exact .pure nofun
  · refine .next (look_only trivial) fun known => ?_
    cases known with
    | error missing => exact .pure nofun
    | ok user =>
      dsimp only
      cases cmd.check user with
      | error refusal => exact .pure nofun
      | ok parts =>
        refine .next (looks_only (HubService.getChannel_reads _)) fun found => ?_
        cases found with
        | none => exact .pure nofun
        | some info =>
          dsimp only
          split
          · exact .pure nofun
          · refine .next (looks_only (HubService.isHubMember_reads _ _)) fun member => ?_
            split
            · refine .pure ?_
              rintro _ ⟨⟩
              rfl
            · exact .pure nofun

theorem sendMessage_composed (mode : WriteMode) (conn : GlobalConnId) (cmd : SendMessage) :
    (Handlers.sendMessage mode conn cmd).Composed (Within (Command.sendMessage conn cmd).Handles)
      (Command.sendMessage conn cmd).Says := by
  have drafted := draftMessage_composed conn cmd
  refine .bind (.part ?_ drafted.yields.lift) fun result is => ?_
  · exact (drafted.only fun _ _ => id).lift fun _ looks => ⟨looks, nofun⟩
  cases result with
  | error refusal => exact refused
  | ok draft =>
    have here := is draft rfl
    refine .bind (Q := fun _ => True) ?_ fun saved _ => ?_
    · cases mode with
      | synchronous =>
        refine .next (desk_only ⟨here, nofun⟩) fun saved => ?_
        cases saved <;> exact .pure trivial
      | asynchronous =>
        refine .next (desk_only ⟨here, nofun⟩) fun accepted => ?_
        cases accepted with
        | none => exact .pure trivial
        | some req => exact .next (desk_only ⟨trivial, nofun⟩) fun _ => .pure trivial
    · rcases saved with (_ | _) | saved
      · exact refused
      · exact refused
      · refine .next (hub_only ⟨trivial, nofun⟩) fun subs => .pure (says_change ?_)
        exact ⟨conn, cmd, rfl, rfl, here.symm⟩

theorem checkActivity_looks (conn : GlobalConnId) (hubId : HubId) (channel : ChannelId) :
    (Handlers.checkActivity conn hubId channel).Only HubCall.Looks := by
  unfold Handlers.checkActivity
  split
  · trivial
  · refine .bind (look_only trivial) fun known => ?_
    cases known with
    | error _ => trivial
    | ok user =>
      refine .bind (look_only trivial) fun found => ?_
      cases found with
      | error _ => trivial
      | ok sessionId =>
        refine .bind (looks_only (HubService.getChannel_reads _)) fun found => ?_
        cases found with
        | none => trivial
        | some info =>
          dsimp only
          split
          · trivial
          · split
            · trivial
            · refine .bind (looks_only (HubService.isHubMember_reads _ _)) fun member => ?_
              cases member <;> trivial

section VoiceActivity

variable {conn : GlobalConnId} {user : UserId} {hubId : HubId} {channel : ChannelId}
  {muted deafened : Bool}

theorem tellVoice_composed : (Handlers.tellVoice user hubId channel).Composed
    (Within (Command.voiceActivity conn hubId channel muted deafened).Handles)
    (Command.voiceActivity conn hubId channel muted deafened).Says := by
  refine .after (.next (desk_only ⟨rfl, nofun⟩) fun _ => .pure trivial) fun final => ?_
  refine .next (hub_only ⟨trivial, nofun⟩) fun subs => ?_
  refine .next (desk_only ⟨trivial, nofun⟩) fun sessions => ?_
  refine gather (fun sessionId => ?_) fun told each =>
    .pure (says_append (says_change ⟨conn, muted, deafened, rfl⟩) each)
  refine .next (desk_only ⟨trivial, nofun⟩) fun conns => .pure ?_
  exact says_toAny (.inr ⟨conn, hubId, channel, muted, deafened, rfl⟩)

theorem changeFlags_composed :
    (Handlers.changeFlags user hubId channel muted deafened).Composed
      (Within (Command.voiceActivity conn hubId channel muted deafened).Handles)
      (Command.voiceActivity conn hubId channel muted deafened).Says := by
  have flags : Within (Command.voiceActivity conn hubId channel muted deafened).Handles
      (Handlers.flagsOf user channel) := .bind (desk_only ⟨rfl, nofun⟩) fun _ => trivial
  refine .next flags fun found => ?_
  cases found with
  | none => exact .pure says_nothing
  | some current =>
    dsimp only
    split
    · exact .pure says_nothing
    · refine .next ?_ fun first => ?_
      · unfold Handlers.setFlag
        split
        · exact desk_only ⟨rfl, nofun⟩
        · trivial
      · refine .next flags fun found => ?_
        cases found with
        | none => exact .pure says_nothing
        | some current =>
          refine .next ?_ fun second => ?_
          · unfold Handlers.setFlag
            split
            · exact desk_only ⟨rfl, nofun⟩
            · trivial
          · split
            · exact tellVoice_composed
            · exact .pure says_nothing

theorem voiceActivity_composed :
    (Handlers.voiceActivity conn hubId channel muted deafened).Composed
      (Within (Command.voiceActivity conn hubId channel muted deafened).Handles)
      (Command.voiceActivity conn hubId channel muted deafened).Says := by
  refine .next ?_ fun checked => ?_
  · exact (checkActivity_looks conn hubId channel).lift fun _ looks => ⟨looks, nofun⟩
  cases checked with
  | error refusal => exact refused
  | ok who =>
    refine .next (desk_only ⟨trivial, nofun⟩) fun current => ?_
    refine .next (desk_only ⟨trivial, nofun⟩) fun owner => ?_
    grind [refused, changeFlags_composed]

end VoiceActivity

end Footprint

namespace Command

variable (mode : WriteMode) (cmd : Command)

theorem handler_composed :
    (cmd.handler mode).Composed (Footprint.Within cmd.Handles) cmd.Says := by
  cases cmd with
  | request r =>
    refine .part ?_ r.prog_composed.yields.lift
    exact r.prog_makes.lift fun _ makes => ⟨makes, nofun⟩
  | sendMessage conn cmd => exact Footprint.sendMessage_composed mode conn cmd
  | voiceActivity conn hubId channel muted deafened => exact Footprint.voiceActivity_composed
  | writeNext => exact .next (Footprint.desk_only ⟨trivial, nofun⟩) fun _ => .pure says_nothing

theorem handler_handles : (cmd.handler mode).Only cmd.Handles :=
  (cmd.handler_composed mode).only fun _ _ => id

/-- **A command makes no calls but its own.** -/
theorem prog_makes : (cmd.prog mode).Only cmd.Makes := by
  have handled := (cmd.handler_handles mode).mono fun _ => And.left
  cases cmd with
  | request r | sendMessage conn cmd => exact Footprint.serve_only handled fun _ => trivial
  | voiceActivity conn hubId channel muted deafened =>
    exact Footprint.serve_only handled fun _ => trivial
  | writeNext => exact .bind (Footprint.desk_only trivial) fun _ => trivial

end Command

end Kergit
