import Kergit.AsyncMessageWriter

/-!
The writer and its database.

`TransactionRunner` retries a transaction whose connection broke before the commit and
gives up on one that broke during it, when nobody knows whether the commit was applied.
The writer takes either for a failure and inserts the message again.  A fault script
says what befalls each attempt; `MessageStore` is the writer together with the tables.

- `write_cases`: what a write can do, whatever befalls it.
- `verdicts_agree`: unless a commit breaks after it was applied, the writer's verdicts
  are the truth about the tables.
-/

namespace Kergit

open Lib

/-- What befalls one attempt of a transaction: nothing; an exception of a statement; the
connection breaks before the commit, or during it. -/
inductive Fault where
  | none
  | failure
  | broken
  | brokenCommit (applied : Bool)
deriving DecidableEq, Repr

/-- What befalls one write: whether a connection can be leased, what befalls the attempts,
and whether the connection can be made again after each. -/
structure FaultScript where
  leased : Bool := true
  fault : Nat → Fault := fun _ => .none
  reconnected : Nat → Bool := fun _ => true

/-- The second attempt is made only after a break before the commit of the first. -/
def FaultScript.Reaches (script : FaultScript) (attempt : Nat) : Prop :=
  script.leased = true ∧ (attempt = 1 ∨
    attempt = 2 ∧ script.fault 1 = .broken ∧ script.reconnected 1 = true)

inductive PersistenceError where
  | transient
  | failure
deriving DecidableEq, Repr

namespace TransactionRunner

variable {σ α : Type}

/-- How one attempt ends. -/
inductive Ending (α : Type) where
  | done (a : α)
  | thrown
  | broken (commitAttempted : Bool)

/-- One attempt of a transaction `fn`, which throws or says what to commit. -/
def attemptOnce (fn : σ → Option (α × σ)) (s : σ) : Fault → Ending α × σ
  | .broken => (.broken false, s)
  | .failure => (.thrown, s)
  | .none =>
    match fn s with
    | none => (.thrown, s)
    | some (a, s') => (.done a, s')
  | .brokenCommit applied =>
    match fn s with
    | none => (.thrown, s)
    | some (_, s') => (.broken true, if applied then s' else s)

/-- What is made of an attempt; `again` is what follows where a retry is safe. -/
def conclude (idempotent : Bool) (again : σ → Except PersistenceError α × σ) :
    Ending α × σ → Except PersistenceError α × σ
  | (.done a, s) => (.ok a, s)
  | (.thrown, s) => (.error .failure, s)
  | (.broken commitAttempted, s) =>
    if idempotent = true ∨ commitAttempted = false then again s else (.error .transient, s)

-- `TransactionRunner::run`, the loop, with the number of retries left.
def loop (idempotent : Bool) (script : FaultScript) (fn : Nat → σ → Option (α × σ)) :
    Nat → Nat → σ → Except PersistenceError α × σ
  | 0, attempt, s =>
    conclude idempotent (fun s => (.error .transient, s))
      (attemptOnce (fn attempt) s (script.fault attempt))
  | left + 1, attempt, s =>
    conclude idempotent
      (fun s =>
        if script.reconnected attempt then loop idempotent script fn left (attempt + 1) s
        else (.error .transient, s))
      (attemptOnce (fn attempt) s (script.fault attempt))

-- `TransactionRunner::write`; `kMaxAttempts` is two.
def write (script : FaultScript) (fn : Nat → σ → Option (α × σ)) (s : σ) :
    Except PersistenceError α × σ :=
  if script.leased then loop false script fn 1 1 s else (.error .transient, s)

/-- What a write can do: the transaction is done; or it is not and nothing was written;
or nobody is told that it was. -/
inductive Written (script : FaultScript) (fn : Nat → σ → Option (α × σ)) (s : σ) :
    Except PersistenceError α × σ → Prop
  | done (attempt : Nat) (a : α) (s' : σ) (reached : script.Reaches attempt)
    (is : fn attempt s = some (a, s')) : Written script fn s (.ok a, s')
  | undone (e : PersistenceError) : Written script fn s (.error e, s)
  | inDoubt (attempt : Nat) (a : α) (s' : σ) (reached : script.Reaches attempt)
    (broken : script.fault attempt = .brokenCommit true) (is : fn attempt s = some (a, s')) :
    Written script fn s (.error .transient, s')

variable {script : FaultScript} {fn : Nat → σ → Option (α × σ)} {s : σ} {attempt : Nat}

/-- A reached attempt, given what a break before its commit leads to. -/
theorem conclude_cases (reached : script.Reaches attempt)
    (retry : script.fault attempt = .broken → Written script fn s (again s)) : Written script fn s
      (conclude false again (attemptOnce (fn attempt) s (script.fault attempt))) := by
  cases fault : script.fault attempt with
  | broken => exact retry fault
  | failure => exact .undone .failure
  | none =>
    unfold attemptOnce
    cases is : fn attempt s with
    | none => exact .undone .failure
    | some result => exact .done attempt result.1 result.2 reached is
  | brokenCommit applied =>
    unfold attemptOnce
    cases is : fn attempt s with
    | none => exact .undone .failure
    | some result =>
      cases applied with
      | true => exact .inDoubt attempt result.1 result.2 reached fault is
      | false => exact .undone .transient

/-- **What a write can do.** -/
theorem write_cases (script : FaultScript) (fn : Nat → σ → Option (α × σ)) (s : σ) :
    Written script fn s (write script fn s) := by
  unfold write
  split
  · rename_i leased
    refine conclude_cases ⟨leased, .inl rfl⟩ fun first => ?_
    split
    · rename_i reconnected
      refine conclude_cases ⟨leased, .inr ⟨rfl, first, reconnected⟩⟩ fun _ => ?_
      exact .undone .transient
    · exact .undone .transient
  · exact .undone .transient

end TransactionRunner

/-! ## The writer over the tables -/

/-- What one call of `insertMessage` meets: faults, the other tables, and the draws. -/
structure InsertScript extends FaultScript where
  dir : Directory
  draws : Nat → Draws

-- `MessageRepository::insertMessage`, as the writer calls it: whether it returned
-- true, and the tables after it.
def InsertScript.insert (script : InsertScript) (msg : Message) (r : MessageRepository) :
    Bool × MessageRepository :=
  match TransactionRunner.write script.toFaultScript
      (fun attempt r => (r.insertMessage script.dir (script.draws attempt) msg).map
        fun stored => (true, stored)) r with
  | (.ok inserted, r') => (inserted, r')
  | (.error _, r') => (false, r')

/-- No commit of the insert breaks after it was applied. -/
def InsertScript.Sure (script : InsertScript) (msg : Message) (r : MessageRepository) : Prop :=
  ∀ attempt, script.Reaches attempt → script.fault attempt = .brokenCommit true →
    r.insertMessage script.dir (script.draws attempt) msg = none

/-- A row with the id is stored. -/
def MessageRepository.Stored (r : MessageRepository) (id : MessageId) : Prop :=
  ∃ row ∈ r.tables.messages, row.id = id

instance (r : MessageRepository) (id : MessageId) : Decidable (r.Stored id) :=
  List.decidableBEx (fun row : MessageRow => row.id = id) r.tables.messages

/-- What an insert can do. -/
inductive Inserted (script : InsertScript) (msg : Message) (r : MessageRepository) :
    Bool × MessageRepository → Prop
  | stored (draws : Draws) (r' : MessageRepository)
    (is : r.insertMessage script.dir draws msg = some r') : Inserted script msg r (true, r')
  | refused : Inserted script msg r (false, r)
  | inDoubt (draws : Draws) (r' : MessageRepository)
    (is : r.insertMessage script.dir draws msg = some r') (unsure : ¬ script.Sure msg r) :
    Inserted script msg r (false, r')

theorem insert_cases (script : InsertScript) (msg : Message) (r : MessageRepository) :
    Inserted script msg r (script.insert msg r) := by
  have written := TransactionRunner.write_cases script.toFaultScript
    (fun attempt (r : MessageRepository) =>
      (r.insertMessage script.dir (script.draws attempt) msg).map fun stored => (true, stored)) r
  unfold InsertScript.insert
  generalize TransactionRunner.write _ _ r = result at written ⊢
  cases written with
  | done attempt inserted r' reached is =>
    obtain ⟨stored, done, pair⟩ := Option.map_eq_some_iff.mp is
    obtain ⟨rfl, rfl⟩ := Prod.mk.inj pair
    exact .stored _ _ done
  | undone e => exact .refused
  | inDoubt attempt inserted r' reached broken is =>
    obtain ⟨stored, done, pair⟩ := Option.map_eq_some_iff.mp is
    obtain ⟨rfl, rfl⟩ := Prod.mk.inj pair
    refine .inDoubt _ _ done fun sure => ?_
    rw [sure attempt reached broken] at done
    nomatch done

namespace MessageRepository

variable {r r' : MessageRepository} {dir : Directory} {draws : Draws} {msg : Message}

theorem stored_insertMessage (is : r.insertMessage dir draws msg = some r') (id : MessageId) :
    r'.Stored id ↔ r.Stored id ∨ id = msg.id := by
  obtain ⟨takes, tables⟩ := insertMessage_eq_some.mp is
  unfold Stored
  rw [tables]
  simp only [MessageTables.withMessage, List.mem_append, List.mem_singleton]
  constructor
  · rintro ⟨row, before | rfl, same⟩
    · exact .inl ⟨row, before, same⟩
    · exact .inr same.symm
  · rintro (⟨row, before, same⟩ | same)
    · exact ⟨row, .inl before, same⟩
    · exact ⟨r.tables.messageRow draws msg, .inr rfl, same.symm⟩

theorem not_stored_of_insertMessage (is : r.insertMessage dir draws msg = some r') :
    ¬ r.Stored msg.id := by
  obtain ⟨takes, _⟩ := insertMessage_eq_some.mp is
  rintro ⟨row, listed, same⟩
  exact takes.row.newId row listed same

/-- The rows with an id. -/
def rowsOf (r : MessageRepository) (id : MessageId) : List MessageRow :=
  r.tables.messages.filter fun row => row.id = id

theorem rowsOf_eq_nil (id : MessageId) : r.rowsOf id = [] ↔ ¬ r.Stored id := by
  unfold rowsOf Stored
  rw [List.filter_eq_nil_iff]
  grind

/-- An id has one row or none. -/
theorem rowsOf_length_one (id : MessageId) : (r.rowsOf id).length = 1 ↔ r.Stored id := by
  have apart : (r.rowsOf id).Pairwise fun a b => a.id ≠ b.id :=
    (r.consistent.ordered.filter _).imp fun lower => lower.1
  have same : ∀ row ∈ r.rowsOf id, row.id = id := fun row listed =>
    of_decide_eq_true (List.mem_filter.mp listed).2
  rw [← not_iff_not, ← rowsOf_eq_nil]
  cases rows : r.rowsOf id with
  | nil => simp
  | cons first rest =>
    cases rest with
    | nil => simp
    | cons second more =>
      rw [rows] at apart same
      have ids := (List.pairwise_cons.mp apart).1 second List.mem_cons_self
      have left := same first List.mem_cons_self
      have right := same second (List.mem_cons_of_mem _ List.mem_cons_self)
      exact absurd (left.trans right.symm) ids

end MessageRepository

/-- The writer and the tables it writes. -/
structure MessageStore where
  writer : AsyncMessageWriter
  repository : MessageRepository

inductive StoreInput where
  | enqueue (msg : Message)
  | arrive (i : Nat)
  | work (script : InsertScript)

namespace MessageStore

variable (s : MessageStore)

/-- What the insert comes to, if the worker is at it. -/
def outcome (script : InsertScript) : Bool × MessageRepository :=
  match s.writer.phase with
  | .writing req => script.insert req.msg s.repository
  | .popping | .popped _ | .retrying _ | .pushing _ => (false, s.repository)

def step : StoreInput → MessageStore
  | .enqueue msg => { s with writer := s.writer.step (.enqueue msg) }
  | .arrive i => { s with writer := s.writer.step (.arrive i) }
  | .work script => ⟨s.writer.step (.work (s.outcome script).1), (s.outcome script).2⟩

/-- The messages a writer was asked to write. -/
def asked (w : AsyncMessageWriter) : List MessageId :=
  (w.refused.map fun msg => msg.id) ++ (w.inFlight.map fun req => req.msg.id) ++
    w.settled.map fun entry => entry.1.msg.id

/-- The id is new: `generate_uuid_v4` draws none twice. -/
@[mk_iff] structure Unused (id : MessageId) : Prop where
  asked : id ∉ asked s.writer
  arrived : ∀ req ∈ s.writer.arrived, req.msg.id ≠ id
  stored : ¬ s.repository.Stored id

instance (id : MessageId) : Decidable (s.Unused id) := decidable_of_iff' _ (unused_iff s id)

/-- The condition: no commit breaks after it was applied. -/
def Sound (s : MessageStore) : StoreInput → Prop
  | .enqueue msg => s.Unused msg.id
  | .arrive _ => True
  | .work script => ∀ req, s.writer.phase = .writing req → script.Sure req.msg s.repository

/-- What is said of each message: whether it counts as written. -/
def told (w : AsyncMessageWriter) : List (MessageId × Bool) :=
  (w.refused.map fun msg => (msg.id, false)) ++ (w.inFlight.map fun req => (req.msg.id, false)) ++
    w.settled.map fun entry => (entry.1.msg.id, decide (entry.2 = .success))

/-- One thing is said of each message, and it is true. -/
structure Truthful (s : MessageStore) : Prop where
  once : ((told s.writer).map Prod.fst).Nodup
  agrees : ∀ said ∈ told s.writer, said.2 = true ↔ s.repository.Stored said.1

variable {s} {w' : AsyncMessageWriter} {i : WriterInput}

theorem outcome_writing (writing : s.writer.phase = .writing req) :
    s.outcome script = script.insert req.msg s.repository := by
  simp only [outcome, writing]

theorem outcome_idle (idle : ∀ req, s.writer.phase ≠ .writing req) :
    s.outcome script = (false, s.repository) := by
  unfold outcome
  grind

theorem told_ids (w : AsyncMessageWriter) : (told w).map Prod.fst = asked w := by
  simp [told, asked, Function.comp_def]

/-- A verdict changes what is said of the one message. -/
theorem told_verdict (held : w.inFlight = req :: rest) (flight : w'.inFlight = rest)
    (settled : w'.settled = w.settled ++ [(req, verdict)]) (refused : w'.refused = w.refused) :
    ∃ others, (told w).Perm ((req.msg.id, false) :: others) ∧
      (told w').Perm ((req.msg.id, decide (verdict = .success)) :: others) := by
  unfold told
  rw [held, flight, settled, refused]
  simp
  refine ⟨_, List.perm_middle, ?_⟩
  rw [← List.append_assoc, ← List.append_assoc]
  exact (List.perm_append_singleton _ _).trans (by rw [List.append_assoc])

/-- Unless an insert is reported, a step changes nothing in what is said, or adds a message
that is not written. -/
theorem told_move (move : w.Move i w') (idle : ∀ req, w.phase = .writing req → i ≠ .work true) :
    (told w').Perm (told w) ∨ ∃ msg, i = .enqueue msg ∧ (told w').Perm ((msg.id, false) :: told w) := by
  cases move with
  | shuffle flight attempts settled tickets refused =>
    left
    unfold told
    rw [refused, settled]
    exact ((flight.map _).append_left _).append_right _
  | refuse msg input flight attempts settled tickets refused =>
    refine .inr ⟨msg, input, ?_⟩
    unfold told
    rw [refused, flight, settled]
    simp only [List.map_append, List.append_assoc]
    exact List.perm_middle
  | accept msg input flight attempts settled tickets refused =>
    refine .inr ⟨msg, input, ?_⟩
    unfold told
    rw [refused, flight, settled, List.map_append, ← List.append_assoc, List.append_assoc]
    exact List.perm_middle
  | attempt req inserted writing input did =>
    cases did with
    | retry rest failed held flight again attempts settled tickets refused =>
      left
      unfold told
      rw [refused, settled, flight, held]
      exact List.Perm.refl _
    | finish rest held flight last attempts settled tickets refused =>
      obtain ⟨others, before, after⟩ := told_verdict held flight settled refused
      grind
  | drop req rest held flight full attempts settled tickets refused =>
    obtain ⟨others, before, after⟩ := told_verdict held flight settled refused
    exact .inl (after.trans before.symm)

/-- While nothing is inserted, what is said stays true. -/
theorem Truthful.quiet (truthful : Truthful s) (move : s.writer.Move i w')
    (fresh : ∀ msg, i = .enqueue msg → s.Unused msg.id)
    (idle : ∀ req, s.writer.phase = .writing req → i ≠ .work true) :
    Truthful ⟨w', s.repository⟩ := by
  rcases told_move move idle with same | ⟨msg, input, added⟩
  · exact ⟨(same.map _).nodup_iff.mpr truthful.once,
      fun said listed => truthful.agrees said (same.mem_iff.mp listed)⟩
  · have unused := fresh msg input
    refine ⟨(added.map _).nodup_iff.mpr (List.nodup_cons.mpr ⟨?_, truthful.once⟩), ?_⟩
    · rw [told_ids]
      exact unused.asked
    · intro said listed
      rcases List.mem_cons.mp (added.mem_iff.mp listed) with rfl | before
      · simpa using unused.stored
      · exact truthful.agrees said before

/-- An insert that is reported stores the message, and no other. -/
theorem Truthful.stored (truthful : Truthful s) (did : s.writer.Attempted req true w')
    (is : s.repository.insertMessage dir draws req.msg = some r') : Truthful ⟨w', r'⟩ := by
  cases did with
  | retry rest failed held flight again attempts settled tickets refused =>
    nomatch failed
  | finish rest held flight last attempts settled tickets refused =>
    obtain ⟨others, before, after⟩ := told_verdict held flight settled refused
    have once := (before.map Prod.fst).nodup_iff.mp truthful.once
    refine ⟨(after.map _).nodup_iff.mpr once, fun said listed => ?_⟩
    rw [MessageRepository.stored_insertMessage is]
    rcases List.mem_cons.mp (after.mem_iff.mp listed) with rfl | other
    · simp
    · have differs : said.1 ≠ req.msg.id := fun same =>
        (List.nodup_cons.mp once).1 (List.mem_map.mpr ⟨said, other, same⟩)
      rw [or_iff_left differs]
      exact truthful.agrees said (before.mem_iff.mpr (List.mem_cons_of_mem _ other))

theorem Truthful.step (truthful : Truthful s) {i : StoreInput} (sound : s.Sound i) :
    Truthful (s.step i) := by
  cases i with
  | enqueue msg =>
    refine truthful.quiet (s.writer.step_move (.enqueue msg)) ?_ (fun _ _ => by simp)
    intro msg' same
    cases same
    exact sound
  | arrive k => exact truthful.quiet (s.writer.step_move (.arrive k)) (by simp) (fun _ _ => by simp)
  | work script =>
    simp only [MessageStore.step]
    by_cases busy : ∃ req, s.writer.phase = .writing req
    · obtain ⟨req, writing⟩ := busy
      have inserted := insert_cases script req.msg s.repository
      rw [outcome_writing writing]
      generalize script.insert req.msg s.repository = result at inserted
      cases inserted with
      | stored draws r' is =>
        have did : s.writer.Attempted req true (s.writer.step (.work true)) := by
          simp only [AsyncMessageWriter.step, AsyncMessageWriter.work, writing]
          exact AsyncMessageWriter.conclude_attempted writing true
        exact truthful.stored did is
      | refused =>
        exact truthful.quiet (s.writer.step_move (.work false)) (by simp) (fun _ _ => by simp)
      | inDoubt draws r' is unsure => exact absurd (sound req writing) unsure
    · rw [outcome_idle fun req writing => busy ⟨req, writing⟩]
      exact truthful.quiet (s.writer.step_move (.work false)) (by simp) (fun _ _ => by simp)

/-- What is said about the messages agrees with the tables. -/
structure Agreement (s : MessageStore) : Prop where
  once : (asked s.writer).Nodup
  success : ∀ id ∈ asked s.writer,
    (∃ entry ∈ s.writer.settled, entry.1.msg.id = id ∧ entry.2 = .success) ↔
      (s.repository.rowsOf id).length = 1
  givenUp : ∀ entry ∈ s.writer.settled, entry.2 = .failed ∨ entry.2 = .dropped →
    s.repository.rowsOf entry.1.msg.id = []
  refused : ∀ msg ∈ s.writer.refused, s.repository.rowsOf msg.id = []

theorem mem_told_true {id : MessageId} : (id, true) ∈ told w ↔
    ∃ entry ∈ w.settled, entry.1.msg.id = id ∧ entry.2 = .success := by
  simp [told]

theorem Truthful.agreement (truthful : Truthful s) : Agreement s where
  once := told_ids s.writer ▸ truthful.once
  success id listed := by
    rw [MessageRepository.rowsOf_length_one, ← mem_told_true]
    constructor
    · exact fun said => (truthful.agrees _ said).mp rfl
    · intro stored
      rw [← told_ids] at listed
      obtain ⟨⟨_, written⟩, said, rfl⟩ := List.mem_map.mp listed
      obtain rfl : written = true := (truthful.agrees _ said).mpr stored
      exact said
  givenUp entry settled verdict := by
    have said : (entry.1.msg.id, decide (entry.2 = .success)) ∈ told s.writer :=
      List.mem_append_right _ (List.mem_map_of_mem settled)
    rw [MessageRepository.rowsOf_eq_nil, ← truthful.agrees _ said]
    rcases verdict with failed | dropped
    · simp [failed]
    · simp [dropped]
  refused msg listed := by
    have said : (msg.id, false) ∈ told s.writer :=
      List.mem_append_left _ (List.mem_append_left _ (List.mem_map_of_mem listed))
    rw [MessageRepository.rowsOf_eq_nil, ← truthful.agrees _ said]
    exact Bool.false_ne_true

/-- **Write verdicts are truthful.**  In every run in which no commit breaks after it was
applied: a message counts as written exactly if one row has its id, one that was given
up, dropped or refused has no row, and no message has two verdicts. -/
theorem verdicts_agree {capacity maxRetries : Nat} {r : MessageRepository}
    {inputs : List StoreInput} (staged : Staged step Sound ⟨.fresh capacity maxRetries, r⟩ inputs) :
    Agreement (run step ⟨.fresh capacity maxRetries, r⟩ inputs) := by
  have truthful := staged.invariant Truthful (fun s i truthful sound => truthful.step sound)
    (by constructor <;> simp [AsyncMessageWriter.fresh, told, AsyncMessageWriter.inFlight])
  exact truthful.agreement

end MessageStore

namespace WriterRuns

open MessageStore

/-- Text channels and active profiles only. -/
def plaza : Directory where
  channelType _ := some .chat
  deleted _ := some false

def lots (_ : Nat) : Draws where
  attachmentId _ := "x"
  drawn _ := by decide

/-- An insert that nothing befalls. -/
def plain : InsertScript where
  dir := plaza
  draws := lots

/-- An insert that fails once, with nothing written. -/
def hiccup : InsertScript where
  fault _ := .failure
  dir := plaza
  draws := lots

/-- An insert whose commit is applied, and not acknowledged. -/
def inDoubt : InsertScript where
  fault _ := .brokenCommit true
  dir := plaza
  draws := lots

def letter : Message where
  id := ⟨"m"⟩
  chId := ⟨"c"⟩

/-- One message, inserted at the second attempt of two. -/
def twice (first : InsertScript) : List StoreInput :=
  [.enqueue letter, .arrive 0, .work plain, .work plain, .work first, .work plain, .work plain,
    .work plain, .work plain, .work plain]

/-- The second insert meets the row of the first: the message is stored, and reported as
ASYNC_MESSAGE_WRITE_FAILED. -/
theorem stored_message_reported_failed :
    (run step ⟨.fresh 4 1, .empty⟩ (twice inDoubt)).writer.settled =
      [({ msg := letter, attempt := 1, ticket := 0 }, .failed)] ∧
    ((run step ⟨.fresh 4 1, .empty⟩ (twice inDoubt)).repository.rowsOf letter.id).length = 1 := by
  decide

theorem verdicts_agree_hiccup : Agreement (run step ⟨.fresh 4 1, .empty⟩ (twice hiccup)) := by
  have sure : ∀ s : MessageStore, s.Sound (.work plain) ∧ s.Sound (.work hiccup) := fun _ =>
    ⟨fun _ _ _ _ broken => absurd broken (by simp [plain]),
      fun _ _ _ _ broken => absurd broken (by simp [hiccup])⟩
  refine verdicts_agree ⟨show Unused _ _ by decide, trivial, (sure _).1, (sure _).1, (sure _).2, ?_⟩
  exact ⟨(sure _).1, (sure _).1, (sure _).1, (sure _).1, (sure _).1, trivial⟩

end WriterRuns

end Kergit
