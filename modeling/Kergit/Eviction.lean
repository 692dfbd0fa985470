import Mathlib.Data.List.ProdSigma
import Kergit.Handlers
import Kergit.Snapshots

/-!
A removed member hears nothing more of the hub.

`HUB_MEMBER_KICK` and `HUB_LEAVE` delete the membership, read the connections of the
member and the channels of the hub, and unsubscribe each of the connections from the
hub and from each of the channels.  The subscribing handlers ask for the membership
first and subscribe later, so a subscription can come after the removal has passed the
pair, and then nothing takes it back.

`Eviction.phase` follows one removal through its own calls; `Phase.Covers` says which
subscriptions it is still going to take off.  `Eviction.Punctual` is the condition on
an interleaving: what a connection of the member newly hears, the removal covers, and
the channels it reads are all the channels the member hears.

- `covered_call`: under that condition, every call of every handler leaves the
  subscriptions of the member covered.
- `kickHubMember_ends`, `leaveHub_ends`: a removal that succeeds has taken off
  everything it covers.
- `removed_member_hears_nothing`: both together.
-/

namespace Kergit

open Lib

open HubProg (session subscription cache database outside)

open World (exec userOf)

namespace Eviction

/-- How far a removal has come. -/
inductive Phase where
  | member
  | removed
  | listed (conns : List GlobalConnId)
  | sweeping (left : List (GlobalConnId × Topic))
deriving DecidableEq

/-- The removal is still going to unsubscribe the connection from the topic. -/
def Phase.Covers (conn : GlobalConnId) (topic : Topic) : Phase → Prop
  | member | removed => True
  | listed conns => conn ∈ conns
  | sweeping left => (conn, topic) ∈ left

instance (conn : GlobalConnId) (topic : Topic) (p : Phase) : Decidable (p.Covers conn topic) := by
  cases p <;> unfold Phase.Covers <;> infer_instance

/-- The removal has nothing left to do, or never removed anybody. -/
def Phase.Over (p : Phase) : Prop := p = .member ∨ p = .sweeping []

variable (hub : HubId) (user : UserId)

/-- The topics of a hub with these channels. -/
def topics (channels : List ChannelId) : List Topic :=
  .hubTopic hub :: channels.map (.channelTopic hub)

/-! What a call of the removal tells. -/

def removes : (c : HubCall) → Except Thrown c.Answer → Bool
  | .database (.removeMember k v), .ok _ => decide (k = hub ∧ v = user)
  | _, _ => false

def connsRead : (c : HubCall) → Except Thrown c.Answer → Option (List GlobalConnId)
  | .session (.getSessionConnections v), .ok conns => if v = user then some conns else none
  | _, _ => none

/-- The channels come from the cached snapshot or from the database; a hub that does
not exist has none. -/
def channelsRead : (c : HubCall) → Except Thrown c.Answer → Option (List ChannelId)
  | .cache (.get k), .ok (some snapshot) => if k = hub then some snapshot.channelIds else none
  | .database (.getHub k), .ok none => if k = hub then some [] else none
  | .database (.getHubChannelIds k), .ok channels => if k = hub then some channels else none
  | _, _ => none

def drops : HubCall → Option (GlobalConnId × Topic)
  | .subscription (.unsubscribeConnection conn topic) => some (conn, topic)
  | _ => none

def advance (p : Phase) (c : HubCall) (answer : Except Thrown c.Answer) : Phase :=
  match p with
  | .member => if removes hub user c answer then .removed else .member
  | .removed =>
    match connsRead user c answer with
    | some conns => .listed conns
    | none => .removed
  | .listed conns =>
    match channelsRead hub c answer with
    | some channels => .sweeping (conns.product (topics hub channels))
    | none => .listed conns
  | .sweeping left =>
    match drops c with
    | some pair => .sweeping (left.filter fun other => other ≠ pair)
    | none => .sweeping left

/-- The phase of a task, from what it has called. -/
def phase : Transcript HubCall HubCall.Answer Thrown → Phase
  | [] => .member
  | ⟨c, answer⟩ :: earlier => advance hub user (phase earlier) c answer

/-! ## The condition -/

/-- A connection of the member is subscribed to a topic of the hub. -/
structure Hears (w : World) (conn : GlobalConnId) (topic : Topic) : Prop where
  owned : w.userOf conn = some user
  ofHub : topic.OfHub hub
  subscribed : w.Subscribed conn topic

/-- The topics a connection is subscribed to. -/
def subscriptionsOf (w : World) (conn : GlobalConnId) : List Topic :=
  Map.row w.subscriptions.tables.connToTopics conn

/-- Everything connections of the member hear of the hub. -/
def heard (w : World) : List (GlobalConnId × Topic) :=
  (w.sessions.getSessionConnections user).flatMap fun conn =>
    ((subscriptionsOf w conn).filter fun topic => topic.OfHub hub).map fun topic => (conn, topic)

def subscribes : HubCall → Option (GlobalConnId × Topic)
  | .subscription (.subscribeConnection conn topic) => some (conn, topic)
  | _ => none

def attaches : HubCall → Option (GlobalConnId × UserId)
  | .session (.attachConnection conn owner) => some (conn, owner)
  | _ => none

variable (r : Nat)

/-- What the member newly hears by the call, removal `r` covers; and if the call reads
the channels for `r`, they are all the channels the member hears. -/
structure Punctual (s : WorkerScene) (i : Nat) (env : CallEnv) (c : HubCall) : Prop where
  subscribes : ∀ pair ∈ subscribes c, s.shared.userOf pair.1 = some user → pair.2.OfHub hub →
    (phase hub user (s.transcript r)).Covers pair.1 pair.2
  attaches : ∀ pair ∈ attaches c, pair.2 = user → ∀ topic ∈ subscriptionsOf s.shared pair.1,
    topic.OfHub hub → (phase hub user (s.transcript r)).Covers pair.1 topic
  lists : i = r → phase hub user (s.transcript r) ≠ .member →
    ∀ channels ∈ channelsRead hub c (exec env c s.shared).1,
      ∀ pair ∈ heard hub user s.shared, pair.2 ∈ topics hub channels

instance (s : WorkerScene) (i : Nat) (env : CallEnv) (c : HubCall) :
    Decidable (Punctual hub user r s i env c) :=
  decidable_of_iff (_ ∧ _ ∧ _)
    ⟨fun ⟨subscribes, attaches, lists⟩ => ⟨subscribes, attaches, lists⟩,
      fun ⟨subscribes, attaches, lists⟩ => ⟨subscribes, attaches, lists⟩⟩

/-- The task is a kick of the member or a leave. -/
def removal : Request → Bool
  | .kickHubMember _ k v => decide (k = hub ∧ v = user)
  | .leaveHub _ k => decide (k = hub)
  | _ => false

def succeeds : Except Thrown Reply → Bool
  | .ok (.done _) => true
  | _ => false

/-! ## The discipline -/

/-- A removal that succeeds has nothing left to do. -/
def discipline : Discipline workers where
  Possible := fun _ _ => True
  Rule := fun _ _ _ => True
  End := fun request result t =>
    removal hub user request = true → succeeds result = true → (phase hub user t).Over
  possible := fun _ _ _ => trivial

/-- The removal covers everything the member hears. -/
structure Swept (s : WorkerScene) : Prop extends (discipline hub user).Abides s where
  covered : ∀ conn topic, Hears hub user s.shared conn topic →
    (phase hub user (s.transcript r)).Covers conn topic

variable {hub user r} {i : Nat} {s s' : WorkerScene} {w : World} {conn : GlobalConnId}
  {topic : Topic}

theorem mem_heard : (conn, topic) ∈ heard hub user w ↔ Hears hub user w conn topic := by
  have owned : conn ∈ w.sessions.getSessionConnections user ↔ w.userOf conn = some user := by
    rw [SessionManager.mem_getSessionConnections, SessionManager.sessionOfConnection_ok]
    rfl
  simp only [heard, List.mem_flatMap, List.mem_map, List.mem_filter, decide_eq_true_eq,
    Prod.mk.injEq]
  constructor
  · rintro ⟨k, listed, t, ⟨subscribed, ofHub⟩, rfl, rfl⟩
    exact ⟨owned.mp listed, ofHub, subscribed⟩
  · rintro ⟨known, ofHub, subscribed⟩
    exact ⟨conn, owned.mpr known, topic, ⟨subscribed, ofHub⟩, rfl, rfl⟩

section Reading

variable {env : CallEnv} {c : HubCall}

theorem connsRead_exec (reads : connsRead user c (exec env c w).1 = some conns) :
    (exec env c w).2 = w ∧ conns = w.sessions.getSessionConnections user := by
  generalize answered : (exec env c w).1 = answer at reads
  unfold connsRead at reads
  split at reads
  · obtain ⟨rfl, ⟨⟩⟩ := Option.ite_none_right_eq_some.mp reads
    exact ⟨rfl, (Except.ok.inj answered).symm⟩
  · nomatch reads

theorem channelsRead_exec (reads : channelsRead hub c (exec env c w).1 = some channels) :
    (exec env c w).2.sessions = w.sessions ∧
      (exec env c w).2.subscriptions = w.subscriptions := by
  refine World.exec_apart ?_
  cases c with
  | session c | subscription c => simp [channelsRead] at reads
  | cache c | database c | outside c => trivial

end Reading

/-- What the member hears after a call, the removal covered before it. -/
theorem covers_of_hears (inv : Swept hub user r s) (punctual : Punctual hub user r s i env c)
    (hears : Hears hub user (exec env c s.shared).2 conn topic) :
    (phase hub user (s.transcript r)).Covers conn topic := by
  obtain ⟨owned, ofHub, subscribed⟩ := hears
  rcases World.subscribed_exec subscribed with before | rfl
  · rcases @World.userOf_exec env c s.shared conn with same | ⟨owner, rfl, -, attached⟩ | ⟨-, gone⟩
    · exact inv.covered conn topic ⟨same ▸ owned, ofHub, before⟩
    · have mine : owner = user := Option.some.inj (attached.symm.trans owned)
      exact punctual.attaches (conn, owner) rfl mine topic before ofHub
    · nomatch gone.symm.trans owned
  · have same : s.shared.userOf conn = some user := by
      rw [← owned]
      rfl
    exact punctual.subscribes (conn, topic) rfl same ofHub

/-- A call of the removal itself covers what is left. -/
theorem covers_advance (covers : p.Covers conn topic)
    (lists : p ≠ .member → ∀ channels ∈ channelsRead hub c (exec env c w).1,
      ∀ pair ∈ heard hub user w, pair.2 ∈ topics hub channels)
    (hears : Hears hub user (exec env c w).2 conn topic) :
    (advance hub user p c (exec env c w).1).Covers conn topic := by
  cases p with
  | member =>
    rw [advance]
    split <;> trivial
  | removed =>
    simp only [advance]
    split
    · rename_i conns reads
      obtain ⟨same, rfl⟩ := connsRead_exec reads
      rw [same] at hears
      exact SessionManager.mem_getSessionConnections.mpr
        (SessionManager.sessionOfConnection_ok.mpr hears.owned)
    · trivial
  | listed conns =>
    simp only [advance]
    split
    · rename_i channels reads
      obtain ⟨sessions, subscriptions⟩ := channelsRead_exec reads
      have before : Hears hub user w conn topic := by
        refine ⟨?_, hears.ofHub, ?_⟩
        · rw [← hears.owned, userOf, userOf, sessions]
        · have subscribed := hears.subscribed
          rwa [World.Subscribed, subscriptions] at subscribed
      exact List.mem_product.mpr
        ⟨covers, lists (by simp) channels reads (conn, topic) (mem_heard.mpr before)⟩
    · exact covers
  | sweeping left =>
    simp only [advance]
    split
    · rename_i pair dropped
      refine List.mem_filter.mpr ⟨covers, decide_eq_true fun same => ?_⟩
      subst same
      unfold drops at dropped
      split at dropped
      · cases dropped
        exact (SubscriptionManager.subscribed_unsubscribe.mp hears.subscribed).2 ⟨rfl, rfl⟩
      · cases dropped
    · exact covers

theorem swept_preserved :
    (discipline hub user).Preserves (fun _ _ => True) (Punctual hub user r) (Swept hub user r) where
  start s i request inv _ fresh := by
    refine ⟨inv.start fresh, fun conn topic hears => ?_⟩
    exact inv.covered conn topic hears
  call s i request env c inv began running rule punctual := by
    refine ⟨inv.call began running rule, fun conn topic hears => ?_⟩
    have before := covers_of_hears inv punctual hears
    rw [Scene.transcript_log_called]
    split
    · rename_i mine
      exact covers_advance before (punctual.lists mine) hears
    · exact before
  ends s i request result inv began _ ended := by
    refine ⟨inv.return began ended, fun conn topic hears => ?_⟩
    exact inv.covered conn topic hears

/-! ## The removal -/

/-- What a program that does not throw leads to. -/
abbrev Leads {α : Type} (p : HubProg α) (Q : α → HubTranscript → Prop) : HubTranscript → Prop :=
  p.Along (fun _ _ => True) (fun _ _ => True) fun | .ok a => Q a | .error _ => fun _ => True

section Leads

variable {α β : Type} {p : HubProg α} {Q : α → HubTranscript → Prop} {R : β → HubTranscript → Prop}
  {t : HubTranscript}

theorem Leads.bind (first : Leads p Q t)
    (rest : ∀ a t, Q a t → Leads (f a) R t) : Leads (p >>= f) R t :=
  Prog.Along.bind first rest fun _ _ _ => trivial

theorem Leads.weaken {Q' : α → HubTranscript → Prop} (leads : Leads p Q t)
    (weaker : ∀ a t, Q a t → Q' a t) : Leads p Q' t := by
  refine leads.mono fun r t held => ?_
  cases r with
  | ok a => exact weaker a t held
  | error e => trivial

theorem Leads.attempt {f : Except Thrown α → HubProg β} (first : Leads p Q t)
    (failed : ∀ e t, Leads (f (.error e)) R t) (rest : ∀ a t, Q a t → Leads (f (.ok a)) R t) :
    Leads (p.attempt >>= f) R t := by
  refine Prog.Along.bind_attempt first fun r t held => ?_
  cases r with
  | error e => exact failed e t
  | ok a => exact rest a t held

theorem Leads.forEach (I : List β → HubTranscript → Prop)
    (each : ∀ b rest t, I (b :: rest) t → Leads (body b) (fun _ => I rest) t) (start : I items t) :
    Leads (.forEach body items) (fun _ => I []) t := by
  induction items generalizing t with
  | nil => exact start
  | cons b rest ih => exact .bind (each b rest t start) fun _ t held => ih held

end Leads

variable {α : Type} {t : HubTranscript} {p : Phase}

/-- One call of the removal, and what follows. -/
theorem leads_ask {Q : α → HubTranscript → Prop} (here : phase hub user t = p)
    (rest : ∀ answer t, phase hub user t = advance hub user p c (.ok answer) → Leads (f answer) Q t) :
    Leads (Prog.ask c >>= f) Q t := by
  refine .bind_ask trivial (fun answer _ => rest answer _ ?_) fun _ _ => trivial
  rw [phase, here]

/-- The call says nothing to a removal in this phase. -/
def Still (hub : HubId) (user : UserId) (p : Phase) (c : HubCall) : Prop :=
  ∀ answer, advance hub user p c answer = p

theorem still_along {prog : HubProg α} (here : phase hub user t = p)
    (still : prog.Only (Still hub user p)) :
    prog.Along (fun _ _ => True) (fun _ _ => True) (fun _ t => phase hub user t = p) t := by
  refine .of_only still (fun t c still here => ⟨trivial, fun answer _ => ?_⟩) here
  rw [phase, here, still]

theorem leads_still (here : phase hub user t = p)
    (still : prog.Only (Still hub user p)) : Leads prog (fun _ t => phase hub user t = p) t := by
  refine (still_along here still).mono fun r t here => ?_
  cases r with
  | ok a => exact here
  | error e => trivial

/-! ### Reading the channels -/

variable {conns : List GlobalConnId}

/-- The channels of a hub that has this snapshot. -/
def channelIdsOf (found : Option HubSnapshot) : List ChannelId :=
  (found.map fun snapshot => snapshot.channelIds).getD []

variable (hub user) in
/-- The channels are known, and nothing is done yet. -/
abbrev Listed (conns : List GlobalConnId) (channels : List ChannelId) (t : HubTranscript) : Prop :=
  phase hub user t = .sweeping (conns.product (topics hub channels))

theorem buildSnapshot_leads (here : phase hub user t = .listed conns) :
    Leads (HubService.buildSnapshot hub)
      (fun found => Listed hub user conns (channelIdsOf found)) t := by
  refine leads_ask here fun found t here => ?_
  cases found with
  | none =>
    simp [advance, channelsRead] at here
    exact here
  | some row =>
    refine leads_ask here fun channels t here => ?_
    simp [advance, channelsRead] at here
    refine leads_ask here fun members t here => ?_
    exact leads_ask here fun _ t here => here

theorem getHubChannelIds_leads (here : phase hub user t = .listed conns) :
    Leads (HubService.getHubChannelIds hub) (Listed hub user conns) t := by
  have loads : Leads (HubService.loadSnapshot hub)
      (fun found => Listed hub user conns (channelIdsOf found)) t := by
    refine leads_ask here fun found t here => ?_
    cases found with
    | none => exact buildSnapshot_leads here
    | some snapshot =>
      simp [advance, channelsRead] at here
      exact here
  refine .bind (.bind loads fun found t here => ?_) fun topology t here => here
  cases found with
  | none | some snapshot => exact here

/-! ### Taking the pairs off -/

variable (hub user) in
/-- All that is left to take off is in `P`. -/
def Left (P : GlobalConnId × Topic → Prop) (t : HubTranscript) : Prop :=
  ∃ left, phase hub user t = .sweeping left ∧ ∀ pair ∈ left, P pair

theorem Left.mono (left : Left hub user P t)
    (weaker : ∀ pair, P pair → P' pair) : Left hub user P' t := by
  obtain ⟨pairs, here, within⟩ := left
  exact ⟨pairs, here, fun pair listed => weaker pair (within pair listed)⟩

theorem unsubscribe_leads (left : Left hub user P t) : Leads (Handlers.unsubscribe conn topic)
      (fun _ => Left hub user fun pair => P pair ∧ pair ≠ (conn, topic)) t := by
  obtain ⟨pairs, here, within⟩ := left
  refine leads_ask here fun _ t here => ⟨_, here, fun pair kept => ?_⟩
  grind

/-- One connection, topic by topic. -/
theorem dropTopics_leads (start : Left hub user (fun pair => P pair ∨ ∃ channel ∈ channels,
      pair = (conn, .channelTopic hub channel)) t) :
    Leads (.forEach (fun channel => Handlers.unsubscribe conn (.channelTopic hub channel)) channels)
      (fun _ => Left hub user P) t := by
  refine (Leads.forEach (fun todo => Left hub user fun pair => P pair ∨ ∃ channel ∈ todo,
    pair = (conn, .channelTopic hub channel)) ?_ start).weaken ?_
  · intro channel todo t left
    refine (unsubscribe_leads left).weaken fun _ _ left => left.mono ?_
    grind
  · exact fun _ _ left => left.mono fun pair => by simp

theorem dropSubscriptions_leads
    (start : Left hub user (· ∈ conns.product (topics hub channels)) t) :
    Leads (Handlers.dropSubscriptions hub channels conns)
      (fun _ t => phase hub user t = .sweeping []) t := by
  refine (Leads.forEach (fun todo => Left hub user (· ∈ todo.product (topics hub channels)))
    ?_ start).weaken ?_
  · intro conn todo t left
    refine .bind (unsubscribe_leads left) fun _ t left => dropTopics_leads (left.mono ?_)
    rintro pair ⟨listed, differs⟩
    obtain ⟨conn', topic⟩ := pair
    obtain ⟨mine | ⟨_, later⟩, known⟩ := List.mem_product.mp listed
    · rcases List.mem_cons.mp known with rfl | there
      · exact absurd rfl differs
      · grind
    · exact .inl (List.mem_product.mpr ⟨later, known⟩)
  · rintro _ t ⟨pairs, here, within⟩
    rw [here, List.eq_nil_iff_forall_not_mem.mpr fun pair listed =>
      absurd (within pair listed) List.not_mem_nil]

/-! ### The two commands -/

variable (hub user) in
/-- A program of the removal that may be its end. -/
abbrev Ends (p : HubProg Reply) : HubTranscript → Prop :=
  Leads p fun reply t => succeeds (.ok reply) = true → (phase hub user t).Over

/-- Past the member's connections, of which `conns` were read. -/
theorem evict_ends {ops : List DeltaOp}
    (all : ∀ k ∈ conns, k ∈ targets) (here : phase hub user t = .listed conns) :
    Ends hub user (Handlers.evict hub targets ops) t := by
  refine .bind (getHubChannelIds_leads here) fun channels t here => ?_
  have start : Left hub user (· ∈ targets.product (topics hub channels)) t := by
    refine ⟨_, here, fun pair listed => ?_⟩
    obtain ⟨known, there⟩ := List.mem_product.mp listed
    exact List.mem_product.mpr ⟨all _ known, there⟩
  refine .bind (dropSubscriptions_leads start) fun _ t here => ?_
  exact leads_ask here fun _ t here _ => .inr here

/-- The delete of the membership row, and the cache's. -/
theorem removeMember_leads (here : phase hub user t = .member) :
    Leads (HubService.removeMember hub user) (fun _ t => phase hub user t = .removed) t := by
  refine leads_ask here fun _ t here => ?_
  simp [advance, removes] at here
  exact leads_still here (.ask fun _ => rfl)

theorem expel_ends (here : phase hub user t = .member) :
    Ends hub user (Handlers.expel hub user) t := by
  refine .attempt (removeMember_leads here) (fun e t => nofun) fun _ t here => ?_
  refine .bind_attempt (still_along here (.ask fun _ => rfl)) fun _ t here => ?_
  refine leads_ask here fun found t here => ?_
  simp [advance, connsRead] at here
  exact evict_ends (fun _ listed => listed) here

theorem still_member_of_reads {α : Type} {p : HubProg α} (reads : p.Only HubCall.Reads) :
    p.Only (Still hub user .member) := by
  refine reads.mono fun c reads answer => ?_
  cases c with
  | cache c => rfl
  | database c =>
    cases c with
    | removeMember k v => exact reads.elim
    | _ => rfl
  | session c | subscription c | outside c => exact reads.elim

theorem authorizeKick_still : (Handlers.authorizeKick conn hub user).Only
    (Still hub user .member) := by
  refine .bind (.ask fun _ => rfl) fun found => ?_
  cases found with
  | error e => trivial
  | ok actor =>
    dsimp only
    split
    · trivial
    refine .bind (still_member_of_reads (HubService.getMembershipRole_reads hub actor))
      fun role => ?_
    cases role with
    | none => trivial
    | some actorRole =>
      refine .bind (still_member_of_reads (HubService.getMembershipRole_reads hub user))
        fun role => ?_
      cases role with
      | none => trivial
      | some targetRole =>
        dsimp only
        split <;> trivial

theorem kickFromVoice_still : (Handlers.kickFromVoice hub user).Only (Still hub user .member) := by
  refine .bind (.ask fun _ => rfl) fun found => ?_
  cases found with
  | none => trivial
  | some channel =>
    refine .bind (still_member_of_reads (HubService.getChannel_reads channel)) fun found => ?_
    cases found with
    | none => trivial
    | some info =>
      dsimp only
      split
      · exact .ask fun _ => rfl
      · trivial

theorem kickHubMember_ends (here : phase hub user t = .member) :
    Ends hub user (Handlers.kickHubMember conn hub user) t := by
  refine .bind (leads_still here authorizeKick_still) fun allowed t here => ?_
  cases allowed with
  | error refusal => exact nofun
  | ok _ =>
    refine .bind (leads_still here kickFromVoice_still) fun kicked t here => ?_
    cases kicked with
    | false => exact nofun
    | true => exact expel_ends here

theorem evict_still : (Handlers.evict hub targets ops).Only (Still hub user .member) := by
  refine .bind (still_member_of_reads (HubService.getHubChannelIds_reads hub)) fun channels => ?_
  refine .bind (.forEach fun k _ => ?_) fun _ => ?_
  · refine .bind (.bind (.ask fun _ => rfl) fun _ => trivial) fun _ => ?_
    exact .forEach fun _ _ => .bind (.ask fun _ => rfl) fun _ => trivial
  · exact .bind (.ask fun _ => rfl) fun _ => trivial

/-- Leaving, as somebody else: not the removal of the member. -/
theorem giveUpMembership_still (differ : other ≠ user) :
    (Handlers.giveUpMembership conn hub other).Only (Still hub user .member) := by
  have removes_other : Still hub user .member (.database (.removeMember hub other)) := by
    intro answer
    cases answer with
    | error e => rfl
    | ok _ => simp [advance, removes, differ]
  have removeMember_still : (HubService.removeMember hub other).Only (Still hub user .member) :=
    .bind (.ask removes_other) fun _ => .ask fun _ => rfl
  refine .bind removeMember_still.attempt fun removed => ?_
  cases removed with
  | error e => cases e <;> trivial
  | ok _ =>
    refine .bind (.bind (.ask fun _ => rfl) fun conns => ?_) fun _ => evict_still
    split <;> trivial

/-- Every connection of the leaving member, or the one that asked if there is none. -/
theorem ownConnections_leads (here : phase hub user t = .removed) :
    Leads (Handlers.ownConnections conn user) (fun targets t =>
      ∃ conns, (∀ k ∈ conns, k ∈ targets) ∧ phase hub user t = .listed conns) t := by
  refine leads_ask here fun conns t here => ?_
  simp [advance, connsRead] at here
  split
  · rename_i none
    rw [List.isEmpty_iff.mp none] at here
    exact ⟨[], nofun, here⟩
  · exact ⟨conns, fun _ listed => listed, here⟩

theorem giveUpMembership_ends (here : phase hub user t = .member) :
    Ends hub user (Handlers.giveUpMembership conn hub user) t := by
  refine .attempt (removeMember_leads here) (fun e t => ?_) fun _ t here => ?_
  · cases e <;> exact nofun
  · refine .bind (ownConnections_leads here) ?_
    rintro targets t ⟨conns, all, here⟩
    exact evict_ends all here

theorem leaveHub_ends (here : phase hub user t = .member) :
    Ends hub user (Handlers.leaveHub conn hub) t := by
  refine leads_ask here fun found t here => ?_
  cases found with
  | error e => exact nofun
  | ok leaver =>
    refine .bind (leads_still here (still_member_of_reads
      (HubService.getMembershipRole_reads hub leaver))) fun role t here => ?_
    have leaves : Ends hub user (Handlers.giveUpMembership conn hub leaver) t := by
      by_cases mine : leaver = user
      · subst mine
        exact giveUpMembership_ends here
      · exact (leads_still here (giveUpMembership_still mine)).weaken fun _ _ here _ => .inl here
    match role with
    | none | some .owner => exact nofun
    | some .admin | some .user => exact leaves

/-! ## Every interleaving -/

/-- Any request that is not the removal may do as it likes. -/
theorem bystander_keeps (other : removal hub user request ≠ true)
    (p : HubProg Reply) (t : HubTranscript) :
    p.Along (fun _ _ => True) (fun _ _ => True) ((discipline hub user).End request) t := by
  induction p generalizing t with
  | ret a | raise e => exact fun mine => absurd mine other
  | call c next ih => exact ⟨trivial, fun answer _ => ih answer _⟩

theorem handlers_keep (request : Request) : (discipline hub user).Keeps request := by
  by_cases mine : removal hub user request = true
  · have ends {p : HubProg Reply} (ends : Ends hub user p []) : p.Along (fun _ _ => True)
        (fun _ _ => True) ((discipline hub user).End request) [] := by
      refine ends.mono fun result t ended _ succeeded => ?_
      cases result with
      | ok reply => exact ended succeeded
      | error e => nomatch succeeded
    cases request with
    | kickHubMember conn k target =>
      obtain ⟨rfl, rfl⟩ := of_decide_eq_true mine
      exact ends (kickHubMember_ends rfl)
    | leaveHub conn k =>
      obtain rfl := of_decide_eq_true mine
      exact ends (leaveHub_ends rfl)
    | _ => exact absurd mine (by simp [removal])
  · exact bystander_keeps mine _ []

theorem advance_ne_member (past : p ≠ .member ∨ removes hub user c answer = true) :
    advance hub user p c answer ≠ .member := by
  cases p with
  | member =>
    rcases past with never | removed
    · exact absurd rfl never
    · simp [advance, removed]
  | removed | listed conns | sweeping left => simp only [advance]; split <;> simp

/-- A removal that has removed the member is past that phase. -/
theorem phase_ne_member (removed : s.Called r (removes hub user)) :
    phase hub user (s.transcript r) ≠ .member :=
  removed.past (P := (phase hub user · ≠ .member)) fun _ _ _ => advance_ne_member

end Eviction

namespace Kicked

open Lobby (bob home general desk phone turns)

/-- Bob hears the hub. -/
def world : World :=
  { Lobby.world with
    subscriptions := (SubscriptionManager.empty.subscribeConnection phone (.hubTopic home)).2 }

/-- Bob opens the channel; past the membership check, alice kicks him. -/
def moves : List (Move Request CallEnv) :=
  [.start (.selectActiveChannel phone home general none 0)] ++ turns 0 9 ++
    [.start (.kickHubMember desk home bob)] ++ turns 1 18 ++ turns 0 4

def after : WorkerPool := run (Pool.step workers) (Pool.idle world) moves

/-- The same handlers, the kick last. -/
def inOrder : List (Move Request CallEnv) :=
  [.start (.selectActiveChannel phone home general none 0)] ++ turns 0 13 ++
    [.start (.kickHubMember desk home bob)] ++ turns 1 18

def settled : WorkerPool := run (Pool.step workers) (Pool.idle world) inOrder

end Kicked

end Kergit
