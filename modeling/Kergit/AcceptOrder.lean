import Kergit.MessageWrites

/-!
In which order accepted messages are stored.

A message gets its number when it is inserted, and messages are inserted in the order
of the queue.  A failed one goes back to its end, past whatever has come meanwhile.  So
the order of acceptance survives exactly as long as no message of the same channel is
waiting when a request is put back.

`Lined` is the invariant: per channel, the rows stored so far and then the messages
still to be stored are a sublist of the messages accepted.  Rows and requests are compared
by channel and id.
-/

namespace Kergit

open Lib

namespace MessageStore

/-- A request is put back while no message of its channel waits in the queue, unless a
commit nobody was told of has stored it already. -/
def Alone (s : MessageStore) : WriterPhase → Prop
  | .pushing req => s.repository.Stored req.msg.id ∨
      ∀ item ∈ s.writer.queue.items, item.msg.chId ≠ req.msg.chId
  | .popping | .popped _ | .writing _ | .retrying _ => True

instance (s : MessageStore) (phase : WriterPhase) : Decidable (s.Alone phase) := by
  cases phase <;> unfold Alone <;> infer_instance

/-- The condition: new ids, and nothing to overtake. -/
def Orderly (s : MessageStore) : StoreInput → Prop
  | .enqueue msg => s.Unused msg.id
  | .arrive _ => True
  | .work _ => s.Alone s.writer.phase

instance (s : MessageStore) (i : StoreInput) : Decidable (s.Orderly i) := by
  cases i <;> unfold Orderly <;> infer_instance

/-- What a request and its row have in common. -/
def tag (req : WriteRequest) : ChannelId × MessageId := (req.msg.chId, req.msg.id)

def rowTag (row : MessageRow) : ChannelId × MessageId := (row.channelId, row.id)

/-- The requests that have come into the queue and have no verdict yet, in its order. -/
def waits (w : AsyncMessageWriter) : List (ChannelId × MessageId) :=
  (w.phase.request ++ w.queue.items).map tag

/-- Those of the waiting messages that are not stored. -/
def unstored (s : MessageStore) : List (ChannelId × MessageId) :=
  (waits s.writer).filter fun t => ¬ s.repository.Stored t.2

def ofChannel (channel : ChannelId) (tags : List (ChannelId × MessageId)) :
    List (ChannelId × MessageId) := tags.filter fun t => t.1 = channel

/-- Over the rows `old`, the `new` ones are those of accepted messages, in order. -/
structure Lined (old new : List MessageRow) (s : MessageStore) : Prop where
  rows : s.repository.tables.messages = old ++ new
  distinct : ((s.writer.arrived ++ s.writer.arriving).map fun req => req.msg.id).Nodup
  foreign : ∀ req ∈ s.writer.arrived ++ s.writer.arriving, ∀ row ∈ old, row.id ≠ req.msg.id
  line : ∀ channel, (ofChannel channel (new.map rowTag ++ s.unstored)).Sublist
    (ofChannel channel (s.writer.arrived.map tag))

variable {s : MessageStore} {new : List MessageRow}

theorem lined_fresh (capacity maxRetries : Nat) (r : MessageRepository) :
    Lined r.tables.messages [] ⟨.fresh capacity maxRetries, r⟩ := by
  constructor <;> simp [AsyncMessageWriter.fresh, waits, unstored]

theorem waits_held {req : WriteRequest} (held : w.phase.request = [req]) :
    waits w = tag req :: w.queue.items.map tag := by
  rw [waits, held]
  simp

section

variable (lined : Lined old new s)

include lined

/-- Fewer are waiting, and nothing else has changed. -/
theorem Lined.fewer (arrived : w'.arrived = s.writer.arrived)
    (arriving : w'.arriving = s.writer.arriving) (fewer : (waits w').Sublist (waits s.writer)) :
    Lined old new ⟨w', s.repository⟩ where
  rows := lined.rows
  distinct := by
    rw [arrived, arriving]
    exact lined.distinct
  foreign := by
    rw [arrived, arriving]
    exact lined.foreign
  line channel := by
    rw [arrived]
    exact (((fewer.filter _).append_left _).filter _).trans (lined.line channel)

/-- A producer reserves a slot, or is refused. -/
theorem Lined.enqueue (unused : s.Unused msg.id) :
    Lined old new ⟨s.writer.enqueue msg, s.repository⟩ := by
  unfold AsyncMessageWriter.enqueue DbWriteQueue.reserveSlot
  by_cases free : s.writer.queue.Free
  · simp only [if_pos free]
    have stranger : ∀ req ∈ s.writer.arrived ++ s.writer.arriving, req.msg.id ≠ msg.id := by
      intro req listed same
      rcases List.mem_append.mp listed with arrived | arriving
      · exact unused.arrived req arrived same
      · refine unused.asked (List.mem_append_left _ (List.mem_append_right _ ?_))
        exact same ▸ List.mem_map_of_mem (List.mem_append_right _ arriving)
    refine ⟨lined.rows, ?_, ?_, lined.line⟩
    · rw [← List.append_assoc, List.map_append]
      refine List.nodup_append.mpr ⟨lined.distinct, List.nodup_singleton _, ?_⟩
      grind
    · intro req listed row stored
      rw [← List.append_assoc] at listed
      rcases List.mem_append.mp listed with before | after
      · exact lined.foreign req before row stored
      · rw [List.mem_singleton.mp after]
        refine fun same => unused.stored ⟨row, ?_, same⟩
        rw [lined.rows]
        exact List.mem_append_left _ stored
  · simp only [if_neg free]
    exact ⟨lined.rows, lined.distinct, lined.foreign, lined.line⟩

/-- A message comes into the queue. -/
theorem Lined.arrive (k : Nat) : Lined old new ⟨s.writer.arrive k, s.repository⟩ := by
  unfold AsyncMessageWriter.arrive
  cases there : s.writer.arriving[k]? with
  | none => exact ⟨lined.rows, lined.distinct, lined.foreign, lined.line⟩
  | some req =>
    obtain ⟨bound, is⟩ := List.getElem?_eq_some_iff.mp there
    have moved : ((s.writer.arrived ++ [req]) ++ s.writer.arriving.eraseIdx k).Perm
        (s.writer.arrived ++ s.writer.arriving) := by
      rw [List.append_assoc]
      refine List.Perm.append_left _ ?_
      rw [← is]
      exact List.getElem_cons_eraseIdx_perm bound
    refine ⟨lined.rows, (moved.map _).nodup_iff.mpr lined.distinct,
      fun req' listed => lined.foreign req' (moved.mem_iff.mp listed), fun channel => ?_⟩
    have before := lined.line channel
    simp only [unstored, waits, ofChannel, DbWriteQueue.push, List.map_append, List.filter_append,
      ← List.append_assoc] at before ⊢
    exact before.append (List.filter_sublist.filter _)

/-- A request goes to the end of the queue. -/
theorem Lined.push {req : WriteRequest} (pushing : s.writer.phase = .pushing req)
    (last : s.repository.Stored req.msg.id ∨
      ∀ item ∈ s.writer.queue.items, item.msg.chId ≠ req.msg.chId) :
    Lined old new
      ⟨{ s.writer with queue := s.writer.queue.push req, phase := .popping }, s.repository⟩ := by
  have front := @waits_held s.writer req (by rw [pushing]; rfl)
  have back : waits { s.writer with queue := s.writer.queue.push req, phase := .popping } =
      s.writer.queue.items.map tag ++ [tag req] := by
    simp [waits, DbWriteQueue.push]
  refine ⟨lined.rows, lined.distinct, lined.foreign, fun channel => ?_⟩
  have before := lined.line channel
  rw [unstored, front, ← List.singleton_append] at before
  simp only [unstored, back, ofChannel, List.filter_append] at before ⊢
  rcases last with stored | alone
  · simpa [tag, stored] using before
  · by_cases here : req.msg.chId = channel
    · have none : ((s.writer.queue.items.map tag).filter
          fun t => ¬ s.repository.Stored t.2).filter (fun t => t.1 = channel) = [] := by
        refine List.filter_eq_nil_iff.mpr fun t listed is => ?_
        obtain ⟨item, queued, rfl⟩ := List.mem_map.mp (List.mem_of_mem_filter listed)
        exact alone item queued ((of_decide_eq_true is).trans here.symm)
      rw [none, List.append_nil] at before
      rwa [none]
    · have none : ([tag req].filter fun t => ¬ s.repository.Stored t.2).filter
          (fun t => t.1 = channel) = [] := by
        refine List.filter_eq_nil_iff.mpr fun t listed is => ?_
        obtain rfl := List.mem_singleton.mp (List.mem_of_mem_filter listed)
        exact here (of_decide_eq_true is)
      rw [none] at before
      rwa [none, List.append_nil]

/-- The message at the head is inserted; fewer are waiting. -/
theorem Lined.insert {dir : Directory} (writing : s.writer.phase = .writing req)
    (is : s.repository.insertMessage dir draws req.msg = some r')
    (arrived : w'.arrived = s.writer.arrived) (arriving : w'.arriving = s.writer.arriving)
    (fewer : (waits w').Sublist (waits s.writer)) : ∃ row, Lined old (new ++ [row]) ⟨w', r'⟩ := by
  obtain ⟨takes, tables⟩ := MessageRepository.insertMessage_eq_some.mp is
  have front := @waits_held s.writer req (by rw [writing]; rfl)
  refine ⟨s.repository.tables.messageRow draws req.msg, ?_, ?_, ?_, fun channel => ?_⟩
  · rw [tables, MessageTables.withMessage, lined.rows, List.append_assoc]
  · rw [arrived, arriving]
    exact lined.distinct
  · rw [arrived, arriving]
    exact lined.foreign
  · rw [arrived]
    refine List.Sublist.trans (List.Sublist.filter _ ?_) (lined.line channel)
    -- What is now unstored was so before, and is not the message inserted.
    have rest : (unstored ⟨w', r'⟩).Sublist
        ((s.writer.queue.items.map tag).filter fun t => ¬ s.repository.Stored t.2) := by
      have among := fewer.filter fun t => ¬ r'.Stored t.2
      rw [front, List.filter_cons_of_neg] at among
      · refine among.trans (List.monotone_filter_right _ fun t new => ?_)
        have new : ¬ r'.Stored t.2 := of_decide_eq_true new
        rw [MessageRepository.stored_insertMessage is, not_or] at new
        exact decide_eq_true new.1
      · have stored := (MessageRepository.stored_insertMessage is req.msg.id).mpr (.inr rfl)
        exact fun new => of_decide_eq_true new stored
    have before : s.unstored =
        tag req :: (s.writer.queue.items.map tag).filter fun t => ¬ s.repository.Stored t.2 := by
      rw [unstored, front, List.filter_cons_of_pos]
      exact decide_eq_true (MessageRepository.not_stored_of_insertMessage is)
    rw [before, List.map_append, List.append_assoc]
    exact (rest.cons_cons (tag req)).append_left _

end

/-- An attempt takes no message in and changes no order. -/
theorem conclude_waits {w : AsyncMessageWriter} (inserted : Bool)
    (writing : w.phase = .writing req) : (w.conclude req inserted).arrived = w.arrived ∧
    (w.conclude req inserted).arriving = w.arriving ∧
    (waits (w.conclude req inserted)).Sublist (waits w) := by
  have front := @waits_held w req (by rw [writing]; rfl)
  rw [front]
  unfold AsyncMessageWriter.conclude
  simp only
  split
  · exact ⟨rfl, rfl, List.sublist_cons_self _ _⟩
  · split
    · exact ⟨rfl, rfl, .refl _⟩
    · exact ⟨rfl, rfl, List.sublist_cons_self _ _⟩

/-- A step of the worker that is not an attempt. -/
theorem Lined.work (lined : Lined old new s)
    (orderly : s.Orderly (.work script)) (idle : ∀ req, s.writer.phase ≠ .writing req) :
    Lined old new ⟨s.writer.work false, s.repository⟩ := by
  unfold AsyncMessageWriter.work
  cases at_ : s.writer.phase with
  | popping =>
    cases items : s.writer.queue.items with
    | nil =>
      simp only [DbWriteQueue.popFront, items]
      exact lined
    | cons req rest =>
      simp only [DbWriteQueue.popFront, items]
      refine lined.fewer rfl rfl ?_
      simp [waits, items]
  | popped req =>
    refine lined.fewer rfl rfl ?_
    simp [waits, at_, DbWriteQueue.release]
  | writing req => exact absurd at_ (idle req)
  | retrying req =>
    simp only [DbWriteQueue.reserveSlot]
    by_cases free : s.writer.queue.Free
    · simp only [if_pos free]
      refine lined.fewer rfl rfl ?_
      simp [waits, at_]
    · simp only [if_neg free]
      refine lined.fewer rfl rfl ?_
      simp [waits]
  | pushing req =>
    have alone : s.Alone s.writer.phase := orderly
    rw [at_] at alone
    exact lined.push at_ alone

theorem Lined.step (lined : Lined old new s) {i : StoreInput} (orderly : s.Orderly i) :
    ∃ new', Lined old new' (s.step i) := by
  cases i with
  | enqueue msg => exact ⟨new, lined.enqueue orderly⟩
  | arrive k => exact ⟨new, lined.arrive k⟩
  | work script =>
    simp only [MessageStore.step]
    by_cases busy : ∃ req, s.writer.phase = .writing req
    · obtain ⟨req, writing⟩ := busy
      have inserted := insert_cases script req.msg s.repository
      rw [outcome_writing writing]
      generalize script.insert req.msg s.repository = result at inserted
      obtain ⟨arrived, arriving, fewer⟩ := conclude_waits result.1 writing
      have concludes : s.writer.step (.work result.1) = s.writer.conclude req result.1 := by
        simp only [AsyncMessageWriter.step, AsyncMessageWriter.work, writing]
      rw [concludes]
      cases inserted with
      | stored draws r' is =>
        obtain ⟨row, lined'⟩ := lined.insert writing is arrived arriving fewer
        exact ⟨_, lined'⟩
      | refused => exact ⟨new, lined.fewer arrived arriving fewer⟩
      | inDoubt draws r' is unsure =>
        obtain ⟨row, lined'⟩ := lined.insert writing is arrived arriving fewer
        exact ⟨_, lined'⟩
    · have idle : ∀ req, s.writer.phase ≠ .writing req := fun req writing => busy ⟨req, writing⟩
      rw [outcome_idle idle]
      exact ⟨new, lined.work orderly idle⟩

/-- In a list without repetitions, elements stand at their indices. -/
theorem pairwise_idxOf {ids : List MessageId} (nodup : ids.Nodup) :
    ids.Pairwise fun x y => ids.idxOf x < ids.idxOf y := by
  rw [List.pairwise_iff_getElem]
  intro i j below below' before
  rwa [nodup.idxOf_getElem i below, nodup.idxOf_getElem j below']

/-- The ids accepted, in order. -/
def acceptedIds (w : AsyncMessageWriter) : List MessageId := w.arrived.map fun req => req.msg.id

section

variable (lined : Lined old new s)

include lined

theorem Lined.nodup : (acceptedIds s.writer).Nodup := by
  have both := lined.distinct
  rw [List.map_append] at both
  exact both.of_append_left

/-- The row of an accepted message is a new one, in the message's channel. -/
theorem Lined.row_of {k : Nat} (there : s.writer.arrived[k]? = some req)
    (stored : row ∈ s.repository.tables.messages) (is : row.id = req.msg.id) :
    row ∈ new ∧ row.channelId = req.msg.chId := by
  have listed : req ∈ s.writer.arrived := List.mem_of_getElem? there
  have fresh : row ∈ new := by
    rw [lined.rows] at stored
    rcases List.mem_append.mp stored with before | after
    · exact absurd is (lined.foreign req (List.mem_append_left _ listed) row before)
    · exact after
  refine ⟨fresh, ?_⟩
  have among : rowTag row ∈ ofChannel row.channelId (new.map rowTag ++ s.unstored) :=
    List.mem_filter.mpr
      ⟨List.mem_append_left _ (List.mem_map_of_mem fresh), decide_eq_true rfl⟩
  obtain ⟨req', listed', same⟩ :=
    List.mem_map.mp (List.mem_of_mem_filter ((lined.line row.channelId).subset among))
  obtain ⟨channel, id⟩ := Prod.mk.inj same
  obtain rfl : req' = req :=
    List.inj_on_of_nodup_map lined.nodup listed' listed (id.trans is)
  exact channel.symm

/-- The index of an id among the accepted ones is that of its request. -/
theorem Lined.idxOf (there : s.writer.arrived[k]? = some req) :
    (acceptedIds s.writer).idxOf req.msg.id = k := by
  have place : (acceptedIds s.writer)[k]? = some req.msg.id := by
    rw [acceptedIds, List.getElem?_map, there]
    rfl
  obtain ⟨below, is⟩ := List.getElem?_eq_some_iff.mp place
  rw [← is]
  exact lined.nodup.idxOf_getElem k below

/-- Of a line, the rows of two accepted messages are numbered in the order of acceptance. -/
theorem Lined.in_order {i j : Nat} (first : s.writer.arrived[i]? = some a)
    (second : s.writer.arrived[j]? = some b) (before : i < j) (channel : a.msg.chId = b.msg.chId)
    (stored : row ∈ s.repository.tables.messages) (stored' : row' ∈ s.repository.tables.messages)
    (is : row.id = a.msg.id) (is' : row'.id = b.msg.id) : row.messageSeq < row'.messageSeq := by
  obtain ⟨fresh, here⟩ := lined.row_of first stored is
  obtain ⟨fresh', here'⟩ := lined.row_of second stored' is'
  let pos (row : MessageRow) : Nat := (acceptedIds s.writer).idxOf row.id
  have positions : (new.filter fun row => row.channelId = a.msg.chId).Pairwise
      fun x y => pos x < pos y := by
    have rows := ((lined.line a.msg.chId).trans List.filter_sublist).map Prod.snd
    rw [ofChannel, List.filter_append, List.map_append, List.filter_map, List.map_map,
      List.map_map] at rows
    have ids := (pairwise_idxOf lined.nodup).sublist ((List.sublist_append_left _ _).trans rows)
    rw [List.pairwise_map] at ids
    exact ids
  have numbers : (new.filter fun row => row.channelId = a.msg.chId).Pairwise
      fun x y => x.messageSeq < y.messageSeq := by
    have ascending := s.repository.ascending a.msg.chId
    rw [lined.rows, List.filter_append] at ascending
    exact (List.pairwise_append.mp ascending).2.1
  -- Either way round, positions and numbers are ordered alike.
  let Alike (x y : MessageRow) : Prop :=
    (pos x < pos y ∧ x.messageSeq < y.messageSeq) ∨ (pos y < pos x ∧ y.messageSeq < x.messageSeq)
  have symm : Std.Symm Alike := ⟨fun _ _ alike => alike.symm⟩
  have alike : (new.filter fun row => row.channelId = a.msg.chId).Pairwise Alike :=
    (positions.and numbers).imp fun both => .inl both
  have left : pos row = i := by
    simp only [pos, is]
    exact lined.idxOf first
  have right : pos row' = j := by
    simp only [pos, is']
    exact lined.idxOf second
  have other : row ≠ row' := by
    rintro rfl
    omega
  rcases alike.forall (List.mem_filter.mpr ⟨fresh, decide_eq_true here⟩)
      (List.mem_filter.mpr ⟨fresh', decide_eq_true (here'.trans channel.symm)⟩) other
    with ⟨_, lower⟩ | ⟨back, _⟩
  · exact lower
  · omega

end

/-- **Stored order is accept order.**  In every run in which a request is put back only
while no message of its channel is waiting, the messages of a channel that are stored
are numbered in the order in which they were accepted. -/
theorem stored_in_accept_order {capacity maxRetries : Nat} {r : MessageRepository}
    {inputs : List StoreInput}
    (staged : Staged step Orderly ⟨.fresh capacity maxRetries, r⟩ inputs) {i j : Nat}
    {a b : WriteRequest}
    (first : (run step ⟨.fresh capacity maxRetries, r⟩ inputs).writer.arrived[i]? = some a)
    (second : (run step ⟨.fresh capacity maxRetries, r⟩ inputs).writer.arrived[j]? = some b)
    (before : i < j) (channel : a.msg.chId = b.msg.chId) {row row' : MessageRow}
    (stored : row ∈ (run step ⟨.fresh capacity maxRetries, r⟩ inputs).repository.tables.messages)
    (stored' : row' ∈ (run step ⟨.fresh capacity maxRetries, r⟩ inputs).repository.tables.messages)
    (is : row.id = a.msg.id) (is' : row'.id = b.msg.id) : row.messageSeq < row'.messageSeq := by
  obtain ⟨new, lined⟩ := staged.invariant (fun s => ∃ new, Lined r.tables.messages new s)
    (fun s i lined orderly => lined.elim fun _ lined => lined.step orderly)
    ⟨[], lined_fresh capacity maxRetries r⟩
  exact lined.in_order first second before channel stored stored' is is'

end MessageStore

namespace WriterRuns

open MessageStore

def letterOf (id : String) : Message where
  id := ⟨id⟩
  chId := ⟨"c"⟩

/-- Two messages of one channel, accepted one after the other; `first` and `second` are the first
two inserts. -/
def pair (first second : InsertScript) : List StoreInput :=
  [.enqueue (letterOf "a"), .arrive 0, .enqueue (letterOf "b"), .arrive 0] ++
    [.work plain, .work plain, .work first, .work plain, .work plain, .work second] ++
    [.work plain, .work plain, .work plain, .work plain, .work plain]

/-- The message accepted first is stored second. -/
theorem failed_message_overtaken :
    (run step ⟨.fresh 4 3, .empty⟩ (pair hiccup plain)).writer.arrived.map
      (fun req => req.msg.id) = [⟨"a"⟩, ⟨"b"⟩] ∧
    (run step ⟨.fresh 4 3, .empty⟩ (pair hiccup plain)).repository.tables.messages.map
      (fun row => (row.id, row.messageSeq)) = [(⟨"b"⟩, 1), (⟨"a"⟩, 2)] := by
  decide

def rowOf (id : String) (seq : Nat) : MessageRow where
  id := ⟨id⟩
  channelId := ⟨"c"⟩
  senderId := {}
  messageSeq := seq
  content := ""
  linkPreview := none
  createdAt := 0

/-- The second insert fails, while no message of its channel waits. -/
theorem stored_in_accept_order_pair : (rowOf "a" 1).messageSeq < (rowOf "b" 2).messageSeq := by
  have staged : Staged step Orderly ⟨.fresh 4 3, .empty⟩ (pair plain hiccup) := by decide
  have stored : rowOf "a" 1 ∈
      (run step ⟨.fresh 4 3, .empty⟩ (pair plain hiccup)).repository.tables.messages := by decide
  have stored' : rowOf "b" 2 ∈
      (run step ⟨.fresh 4 3, .empty⟩ (pair plain hiccup)).repository.tables.messages := by decide
  exact stored_in_accept_order staged (i := 0) (j := 1) rfl rfl (by decide) rfl stored stored' rfl rfl

end WriterRuns

end Kergit
