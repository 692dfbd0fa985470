import Kergit.Handlers
import Kergit.SendMessage

/-!
Reading a channel's history back, page by page.

A client starts from the latest batch and asks for the messages before the smallest
number it has.  On the way to the query both the cursor and the limit lose their
unsigned types: a limit of `2 ^ 31` or more is a negative `int`, and a cursor of
`2 ^ 63` or more a negative `bigint`.

- `IsPage`: the newest messages below a number, oldest first, and an honest flag.
- `history_is_paged`: whatever is appended meanwhile, the client ends with all that
  was there when it began.
-/

namespace Kergit

open Lib

open VoiceState (Refusal)

def cursorSeq (seq : UInt64) : Int := seq.toInt64.toInt

theorem cursorSeq_of_lt (signed : seq.toNat < 2 ^ 63) : cursorSeq seq = seq.toNat := by
  have toInt : seq.toInt64.toInt = seq.toBitVec.toInt := rfl
  rw [cursorSeq, toInt, BitVec.toInt_eq_toNat_cond, if_pos]
  · rfl
  · change 2 * seq.toNat < 2 ^ 64
    omega

theorem cursorSeq_neg (wrapped : 2 ^ 63 ≤ seq.toNat) : cursorSeq seq < 0 := by
  have toInt : seq.toInt64.toInt = seq.toBitVec.toInt := rfl
  have below : seq.toBitVec.toNat < 2 ^ 64 := seq.toNat_lt
  rw [cursorSeq, toInt, BitVec.toInt_eq_toNat_cond, if_neg]
  · omega
  · change ¬ 2 * seq.toNat < 2 ^ 64
    omega

/-- The limit of a page, where no cast is in the way. -/
def pageLimit (limit : UInt32) : Nat := if limit = 0 then 50 else min limit.toNat 100

theorem pageLimit_pos (limit : UInt32) : 1 ≤ pageLimit limit := by
  unfold pageLimit
  split
  · decide
  · rename_i given
    have positive : limit.toNat ≠ 0 := UInt32.toNat_inj.not.mpr given
    omega

theorem clampLimit_of_lt (small : limit.toNat < 2 ^ 31) :
    Handlers.clampLimit limit.toNat = pageLimit limit := by
  unfold Handlers.clampLimit pageLimit
  by_cases zero : limit = 0
  · rw [zero]
    rfl
  · have positive : limit.toNat ≠ 0 := UInt32.toNat_inj.not.mpr zero
    rw [if_neg zero]
    omega

theorem clampLimit_neg {limit : UInt32} (large : 2 ^ 31 ≤ limit.toNat) :
    Handlers.clampLimit limit.toNat < 0 := by
  have below := limit.toNat_lt
  unfold Handlers.clampLimit
  omega

namespace MessageRepository

variable (r : MessageRepository) (channel : ChannelId)

def fetchMessagesBefore (before : UInt64) (limit : Nat) : List Message :=
  (((r.tables.messages.filter fun row => row.channelId = channel ∧ row.messageSeq < cursorSeq before
    ).insertionSort MessageRow.Newer).take limit).map r.message

/-- The rows of a channel, as they were numbered. -/
def history : List MessageRow :=
  r.tables.messages.filter fun row => row.channelId = channel

/-- Those below a number. -/
def older (before : Nat) : List MessageRow :=
  (r.history channel).filter fun row => row.messageSeq < before

theorem history_ascending : (r.history channel).Pairwise fun a b => a.messageSeq < b.messageSeq :=
  r.ascending channel

variable {r} {channel : ChannelId}

theorem older_ascending :
    (r.older channel before).Pairwise fun a b => a.messageSeq < b.messageSeq :=
  (r.history_ascending channel).filter _

/-- The last rows of a list, oldest first, are its first from behind. -/
theorem reverse_newest {rows : List MessageRow} (limit : Nat) :
    ((rows.reverse.take limit).map r.message).reverse =
      (rows.drop (rows.length - limit)).map r.message := by
  rw [← List.map_reverse, List.reverse_take, List.reverse_reverse, List.length_reverse]

theorem fetchMessagesBefore_page {before : UInt64} (signed : before.toNat < 2 ^ 63) (limit : Nat) :
    (r.fetchMessagesBefore channel before limit).reverse =
      ((r.older channel before.toNat).drop ((r.older channel before.toNat).length - limit)).map
        r.message := by
  have rows : (r.tables.messages.filter fun row =>
      row.channelId = channel ∧ row.messageSeq < cursorSeq before) =
        r.older channel before.toNat := by
    simp only [older, history, List.filter_filter, cursorSeq_of_lt signed, Int.ofNat_lt,
      Bool.decide_and, Bool.and_comm]
  rw [fetchMessagesBefore, rows, insertionSort_of_ascending older_ascending, reverse_newest]

/-- No number is below a cursor that turned negative. -/
theorem fetchMessagesBefore_wrapped {before : UInt64} (wrapped : 2 ^ 63 ≤ before.toNat)
    (limit : Nat) : r.fetchMessagesBefore channel before limit = [] := by
  have none : (r.tables.messages.filter fun row =>
      row.channelId = channel ∧ row.messageSeq < cursorSeq before) = [] := by
    refine List.filter_eq_nil_iff.mpr fun row _ below => ?_
    have negative := cursorSeq_neg wrapped
    have := (of_decide_eq_true below).2
    omega
  rw [fetchMessagesBefore, none]
  simp

theorem older_of_history
    (is : r.history channel = first ++ row :: last) : r.older channel row.messageSeq = first := by
  have ascending := r.history_ascending channel
  rw [is] at ascending
  obtain ⟨_, after, before⟩ := List.pairwise_append.mp ascending
  have lower : first.filter (fun old => decide (old.messageSeq < row.messageSeq)) = first :=
    List.filter_eq_self.mpr fun old listed =>
      decide_eq_true (before old listed row List.mem_cons_self)
  have upper : (row :: last).filter (fun old => decide (old.messageSeq < row.messageSeq)) = [] := by
    refine List.filter_eq_nil_iff.mpr fun newer listed below => ?_
    have above : row.messageSeq ≤ newer.messageSeq := by
      rcases List.mem_cons.mp listed with rfl | listed
      · exact le_rfl
      · exact ((List.pairwise_cons.mp after).1 newer listed).le
    exact absurd (of_decide_eq_true below) (Nat.not_lt.mpr above)
  rw [older, is, List.filter_append, lower, upper, List.append_nil]

theorem history_insert (r : MessageRepository) (next : Insert) :
    ∃ later, (r.insert next).history channel = r.history channel ++ later := by
  unfold MessageRepository.insert
  cases done : r.insertMessage next.dir next.draws next.msg with
  | none => exact ⟨[], (List.append_nil _).symm⟩
  | some r' =>
    rw [Option.getD_some, history, (insertMessage_eq_some.mp done).2, MessageTables.withMessage,
      List.filter_append]
    exact ⟨_, rfl⟩

theorem message_insert (stored : row ∈ r.tables.messages) (next : Insert) :
    (r.insert next).message row = r.message row := by
  have holds : Holds row _ r := ⟨stored, rfl⟩
  unfold message attachmentsOf
  rw [(holds.insert next).attached]

end MessageRepository

/-! ## A page -/

structure MessageBatch where
  states : List Message
  exhaustedBefore : Bool
deriving DecidableEq

-- `FetchMessagesBeforeCommand::execute`, past the checks of the channel and its
-- member; PostgreSQL takes no negative limit.
def fetchMessagesBefore (r : MessageRepository) (readable : Bool) (channel : ChannelId)
    (before : Option UInt64) (limit : UInt32) : Except Refusal MessageBatch :=
  if before.getD 0 = 0 then
    .error (.error .invalidArgument "before_cursor.message_seq is required")
  else
    let limit := Handlers.clampLimit limit.toNat
    if readable = true ∧ 0 ≤ limit then
      let messages := (r.fetchMessagesBefore channel (before.getD 0) limit.toNat).reverse
      .ok ⟨messages, messages.length < limit.toNat⟩
    else .error (.error .internalError "Failed to fetch messages")

/-- The `bound` newest messages below a number, oldest first; the flag is set only if
there are no others. -/
structure IsPage (r : MessageRepository) (channel : ChannelId) (before bound : Nat)
    (batch : MessageBatch) : Prop where
  size : batch.states.length = min bound (r.older channel before).length
  ascending : batch.states.Pairwise fun a b => a.messageSeq < b.messageSeq
  stored : ∀ msg ∈ batch.states, ∃ row ∈ r.older channel before, r.message row = msg
  newest : ∀ row ∈ r.older channel before, r.message row ∈ batch.states ∨
    ∀ msg ∈ batch.states, row.messageSeq < msg.messageSeq
  honest : batch.exhaustedBefore = true →
    ∀ row ∈ r.older channel before, r.message row ∈ batch.states

section Page

variable {r : MessageRepository} {channel : ChannelId} {before : UInt64} {limit : UInt32}

/-- The page that is answered: the last of what is older. -/
def pageBefore (r : MessageRepository) (channel : ChannelId) (before bound : Nat) : MessageBatch where
  states := ((r.older channel before).drop ((r.older channel before).length - bound)).map r.message
  exhaustedBefore := (r.older channel before).length < bound

/-- What is asked for within the signed ranges is answered. -/
theorem fetchMessagesBefore_eq (given : before ≠ 0) (signed : before.toNat < 2 ^ 63)
    (small : limit.toNat < 2 ^ 31) :
    fetchMessagesBefore r true channel (some before) limit =
      .ok (pageBefore r channel before.toNat (pageLimit limit)) := by
  have size : (r.older channel before.toNat).length -
      ((r.older channel before.toNat).length - pageLimit limit) < pageLimit limit ↔
        (r.older channel before.toNat).length < pageLimit limit := by omega
  simp only [fetchMessagesBefore, Option.getD_some, if_neg given, clampLimit_of_lt small,
    Int.natCast_nonneg, and_self, if_true, Int.toNat_natCast,
    MessageRepository.fetchMessagesBefore_page signed, List.length_map, List.length_drop, size,
    pageBefore]

theorem fetchMessagesBefore_unreadable (r : MessageRepository) (channel : ChannelId)
    (before : Option UInt64) (limit : UInt32) :
    ∃ refusal, fetchMessagesBefore r false channel before limit = .error refusal := by
  unfold fetchMessagesBefore
  split <;> exact ⟨_, rfl⟩

theorem isPage_pageBefore (r : MessageRepository) (channel : ChannelId) (before bound : Nat) :
    IsPage r channel before bound (pageBefore r channel before bound) := by
  have ascending : (r.older channel before).Pairwise _ := MessageRepository.older_ascending
  have split := List.take_append_drop ((r.older channel before).length - bound)
    (r.older channel before)
  constructor
  case size =>
    simp [pageBefore]
    omega
  case ascending =>
    exact List.pairwise_map.mpr (ascending.sublist (List.drop_sublist _ _))
  case stored =>
    intro msg listed
    obtain ⟨row, dropped, is⟩ := List.mem_map.mp listed
    exact ⟨row, List.mem_of_mem_drop dropped, is⟩
  case newest =>
    intro row stored
    rw [← split] at stored ascending
    rcases List.mem_append.mp stored with left | right
    · right
      intro msg listed
      obtain ⟨newer, dropped, rfl⟩ := List.mem_map.mp listed
      exact (List.pairwise_append.mp ascending).2.2 row left newer dropped
    · left
      exact List.mem_map_of_mem right
  case honest =>
    intro short row stored
    have none : (r.older channel before).length - bound = 0 :=
      Nat.sub_eq_zero_of_le (of_decide_eq_true short).le
    simp only [pageBefore, none]
    exact List.mem_map_of_mem stored

/-- A negative limit is refused by the database. -/
theorem fetchMessagesBefore_large (given : before ≠ 0) (large : 2 ^ 31 ≤ limit.toNat) :
    fetchMessagesBefore r true channel (some before) limit =
      .error (.error .internalError "Failed to fetch messages") := by
  have negative := clampLimit_neg large
  simp only [fetchMessagesBefore, Option.getD_some, if_neg given]
  rw [if_neg]
  omega

/-- A cursor past the signed range gets no message, and is told that there is none. -/
theorem fetchMessagesBefore_empty (given : before ≠ 0) (wrapped : 2 ^ 63 ≤ before.toNat)
    (small : limit.toNat < 2 ^ 31) :
    fetchMessagesBefore r true channel (some before) limit = .ok ⟨[], true⟩ := by
  have positive : 0 < pageLimit limit := pageLimit_pos limit
  simp only [fetchMessagesBefore, Option.getD_some, if_neg given, clampLimit_of_lt small,
    Int.natCast_nonneg, and_self, if_true, Int.toNat_natCast,
    MessageRepository.fetchMessagesBefore_wrapped wrapped, List.reverse_nil, List.length_nil]
  rw [decide_eq_true positive]

/-- **A page is the right one exactly when it is asked for within the signed ranges**, or past the
cursor's where there is no message to miss. -/
theorem page_is_correct (given : before ≠ 0) :
    (1 ≤ pageLimit limit ∧ pageLimit limit ≤ 100) ∧
    ((∃ batch, fetchMessagesBefore r true channel (some before) limit = .ok batch ∧
      IsPage r channel before.toNat (pageLimit limit) batch) ↔
        limit.toNat < 2 ^ 31 ∧ (before.toNat < 2 ^ 63 ∨ r.older channel before.toNat = [])) := by
  have positive : 0 < pageLimit limit := pageLimit_pos limit
  refine ⟨⟨positive, ?_⟩, ?_, ?_⟩
  · unfold pageLimit
    split <;> omega
  · rintro ⟨batch, answered, page⟩
    have small : limit.toNat < 2 ^ 31 := by
      by_contra large
      rw [fetchMessagesBefore_large given (Nat.not_lt.mp large)] at answered
      cases answered
    refine ⟨small, or_iff_not_imp_left.mpr fun wrapped => ?_⟩
    rw [fetchMessagesBefore_empty given (Nat.not_lt.mp wrapped) small] at answered
    cases answered
    have size : 0 = min (pageLimit limit) (r.older channel before.toNat).length := page.size
    exact List.length_eq_zero_iff.mp (by omega)
  · rintro ⟨small, within⟩
    have page := isPage_pageBefore r channel before.toNat (pageLimit limit)
    by_cases signed : before.toNat < 2 ^ 63
    · exact ⟨_, fetchMessagesBefore_eq given signed small, page⟩
    · refine ⟨_, fetchMessagesBefore_empty given (Nat.not_lt.mp signed) small, ?_⟩
      have none := within.resolve_left signed
      simpa [pageBefore, none, positive] using page

end Page

namespace Wrapped

open SendMessage.Chat (delivered)

/-- A limit of `2 ^ 31` is refused; a cursor of `2 ^ 63` gets nothing, and is told that there
is nothing. -/
theorem wrapped_page :
    fetchMessagesBefore delivered.2 true ⟨"c"⟩ (some 2) (2 ^ 31) =
        .error (.error .internalError "Failed to fetch messages") ∧
      (delivered.2.older ⟨"c"⟩ (2 ^ 63)).length = 1 ∧
      fetchMessagesBefore delivered.2 true ⟨"c"⟩ (some (2 ^ 63)) 0 = .ok ⟨[], true⟩ :=
  ⟨by decide, by decide, by decide +kernel⟩

theorem page_is_correct_second :
    ∃ batch, fetchMessagesBefore delivered.2 true ⟨"c"⟩ (some 2) 0 = .ok batch ∧
      IsPage delivered.2 ⟨"c"⟩ 2 50 batch :=
  (page_is_correct (by decide)).2.mpr ⟨by decide, .inl (by decide)⟩

end Wrapped

/-! ## Page after page -/

/-- A client that reads a channel back, and the tables it reads; the batch received last
stands first. -/
structure Reader where
  repository : MessageRepository
  batches : List (List Message)
  exhausted : Bool := false

/-- What happens next: another message is inserted, or the client asks for a page, of tables
that may be out of reach. -/
inductive ReaderInput where
  | append (next : MessageRepository.Insert)
  | fetch (readable : Bool)

/-- A request that is answered. -/
def ReaderInput.answered : ReaderInput → Bool
  | append _ => false
  | fetch readable => readable

namespace Reader

variable (channel : ChannelId) (limit : UInt32)

/-- The client begins with the batch that `SelectActiveChannelCommand` sends. -/
def start (r : MessageRepository) : Reader where
  repository := r
  batches := [(r.fetchMessages channel (Handlers.clampLimit limit.toNat).toNat).reverse]

def received (c : Reader) : List Message := c.batches.flatten

/-- The client asks for what is before the smallest number it has, until it is told that
there is no more. -/
def fetch (c : Reader) (readable : Bool) : Reader :=
  match c.exhausted, (c.received.map Message.messageSeq).min? with
  | false, some seq =>
    match fetchMessagesBefore c.repository readable channel (some (UInt64.ofNat seq)) limit with
    | .ok batch => { c with
        batches := batch.states :: c.batches
        exhausted := batch.exhaustedBefore }
    | .error _ => c
  | _, _ => c

def step (c : Reader) : ReaderInput → Reader
  | .append next => { c with repository := c.repository.insert next }
  | .fetch readable => c.fetch channel limit readable

/-- After `answers` pages the client has the end of the history it began with. -/
structure Inv (r : MessageRepository) (answers : Nat) (missing had : List MessageRow) (c : Reader) :
    Prop where
  grown : ∃ later, c.repository.history channel = r.history channel ++ later
  kept : ∀ row ∈ r.history channel, c.repository.message row = r.message row
  split : r.history channel = missing ++ had
  received : c.received = had.map r.message
  sorted : ∀ batch ∈ c.batches, batch.Pairwise fun a b => a.messageSeq < b.messageSeq
  last : c.exhausted = true → missing = []
  progress : c.exhausted = true ∨ r.history channel = [] ∨ answers < had.length

variable {channel limit} {r : MessageRepository} {answers : Nat} {missing had : List MessageRow}
  {c : Reader}

theorem Inv.append (inv : Inv channel r answers missing had c) (next : MessageRepository.Insert) :
    Inv channel r answers missing had { c with repository := c.repository.insert next } := by
  obtain ⟨later, is⟩ := inv.grown
  obtain ⟨new, grown⟩ := c.repository.history_insert next
  refine { inv with grown := ⟨later ++ new, ?_⟩, kept := fun row listed => ?_ }
  · rw [grown, is, List.append_assoc]
  · have stored : row ∈ c.repository.history channel := is ▸ List.mem_append_left _ listed
    exact (MessageRepository.message_insert (List.mem_filter.mp stored).1 next).trans
      (inv.kept row listed)

theorem Inv.ended (inv : Inv channel r answers missing had c) (more : Nat)
    (ended : c.exhausted = true ∨ r.history channel = []) :
    Inv channel r (answers + more) missing had c :=
  { inv with progress := ended.imp_right .inl }

/-- The page before the first row the client has. -/
theorem Inv.fetch_page
    (inv : Inv channel r answers missing (row :: rest) c) (small : limit.toNat < 2 ^ 31)
    (fits : ∀ row ∈ r.history channel, row.messageSeq < 2 ^ 63) :
    fetchMessagesBefore c.repository true channel (some (UInt64.ofNat row.messageSeq)) limit =
      .ok ⟨(missing.drop (missing.length - pageLimit limit)).map r.message,
        missing.length < pageLimit limit⟩ := by
  obtain ⟨later, grown⟩ := inv.grown
  rw [inv.split, List.append_assoc] at grown
  have listed : row ∈ r.history channel :=
    inv.split ▸ List.mem_append_right _ List.mem_cons_self
  have positive := (r.consistent.numbered row (List.mem_filter.mp listed).1).1
  have signed := fits row listed
  have number : (UInt64.ofNat row.messageSeq).toNat = row.messageSeq :=
    UInt64.toNat_ofNat_of_lt' (signed.trans (by decide))
  rw [fetchMessagesBefore_eq _ (number.symm ▸ signed) small, pageBefore, number,
    MessageRepository.older_of_history grown]
  · refine congrArg (fun states => Except.ok (MessageBatch.mk states _)) (List.map_congr_left ?_)
    intro old dropped
    exact inv.kept old (inv.split ▸ List.mem_append_left _ (List.mem_of_mem_drop dropped))
  · intro zero
    rw [← UInt64.toNat_inj, number] at zero
    exact absurd zero (Nat.ne_of_gt positive)

theorem Inv.smallest (inv : Inv channel r answers missing (row :: rest) c) :
    (c.received.map Message.messageSeq).min? = some row.messageSeq := by
  have ascending := r.history_ascending channel
  rw [inv.split] at ascending
  have lowest := (List.pairwise_cons.mp (List.pairwise_append.mp ascending).2.1).1
  rw [inv.received, List.map_map, List.min?_eq_some_iff]
  refine ⟨List.mem_cons_self, List.forall_mem_cons.mpr ⟨le_rfl, fun seq listed => ?_⟩⟩
  obtain ⟨newer, after, rfl⟩ := List.mem_map.mp listed
  exact (lowest newer after).le

theorem Inv.fetch (inv : Inv channel r answers missing had c) (small : limit.toNat < 2 ^ 31)
    (fits : ∀ row ∈ r.history channel, row.messageSeq < 2 ^ 63) (readable : Bool) :
    ∃ missing had, Inv channel r (answers + readable.toNat) missing had
      (c.fetch channel limit readable) := by
  unfold Reader.fetch
  cases done : c.exhausted with
  | true => exact ⟨missing, had, inv.ended _ (.inl done)⟩
  | false =>
    cases had with
    | nil =>
      have none : (c.received.map Message.messageSeq).min? = none := by
        rw [inv.received]
        rfl
      rw [none]
      refine ⟨missing, [], inv.ended _ (inv.progress.imp_right fun rest => ?_)⟩
      exact rest.resolve_right (Nat.not_lt_zero _)
    | cons row rest =>
      rw [inv.smallest]
      cases readable with
      | false =>
        obtain ⟨refusal, is⟩ := fetchMessagesBefore_unreadable c.repository channel
          (some (UInt64.ofNat row.messageSeq)) limit
        simp only [is]
        exact ⟨missing, row :: rest, inv⟩
      | true =>
        have positive := pageLimit_pos limit
        have whole := List.take_append_drop (missing.length - pageLimit limit) missing
        simp only [inv.fetch_page small fits]
        refine ⟨missing.take (missing.length - pageLimit limit),
          missing.drop (missing.length - pageLimit limit) ++ row :: rest, inv.grown, inv.kept,
          ?_, ?_, ?_, ?_, ?_⟩
        · rw [← List.append_assoc, whole]
          exact inv.split
        · rw [Reader.received, List.flatten_cons, ← Reader.received, inv.received, List.map_append]
        · refine List.forall_mem_cons.mpr ⟨List.pairwise_map.mpr ?_, inv.sorted⟩
          have ascending := r.history_ascending channel
          rw [inv.split] at ascending
          exact (List.pairwise_append.mp ascending).1.sublist (List.drop_sublist _ _)
        · intro short
          rw [Nat.sub_eq_zero_of_le (of_decide_eq_true short).le]
          rfl
        · simp only [decide_eq_true_eq, Bool.toNat_true, List.length_append, List.length_drop]
          rcases inv.progress with ended | empty | more
          · exact absurd ended (by simp [done])
          · exact .inr (.inl empty)
          · rcases Nat.lt_or_ge missing.length (pageLimit limit) with short | full
            · exact .inl short
            · omega

theorem inv_start (r : MessageRepository) (channel : ChannelId) {limit : UInt32}
    (small : limit.toNat < 2 ^ 31) :
    ∃ missing had, Inv channel r 0 missing had (start channel limit r) := by
  have positive := pageLimit_pos limit
  have latest : start channel limit r =
      ⟨r, [((r.history channel).drop ((r.history channel).length - pageLimit limit)).map r.message],
        false⟩ := by
    rw [start, clampLimit_of_lt small, Int.toNat_natCast, MessageRepository.fetchMessages_eq,
      MessageRepository.reverse_newest]
    rfl
  rw [latest]
  refine ⟨_, _, ⟨[], (List.append_nil _).symm⟩, fun _ _ => rfl, (List.take_append_drop _ _).symm,
    List.append_nil _, ?_, nofun, ?_⟩
  · refine List.forall_mem_singleton.mpr (List.pairwise_map.mpr ?_)
    exact (r.history_ascending channel).sublist (List.drop_sublist _ _)
  · rw [← List.length_eq_zero_iff, List.length_drop]
    omega

theorem Inv.run (inv : Inv channel r answers missing had c) (small : limit.toNat < 2 ^ 31)
    (fits : ∀ row ∈ r.history channel, row.messageSeq < 2 ^ 63) (inputs : List ReaderInput) :
    ∃ missing had, Inv channel r (answers + inputs.countP ReaderInput.answered) missing had
      (run (step channel limit) c inputs) := by
  induction inputs generalizing c answers missing had with
  | nil => exact ⟨missing, had, inv⟩
  | cons input rest ih =>
    rw [List.countP_cons]
    cases input with
    | append next => exact ih (inv.append next)
    | fetch readable =>
      obtain ⟨missing, had, inv⟩ := inv.fetch small fits readable
      obtain ⟨missing, had, inv⟩ := ih inv
      refine ⟨missing, had, ?_⟩
      cases readable with
      | false => exact inv
      | true => rwa [Nat.add_right_comm] at inv

/-- **The client ends with the whole history it began with.** -/
theorem history_is_paged (r : MessageRepository) (channel : ChannelId) (latestLimit limit : UInt32)
    (latest : latestLimit.toNat < 2 ^ 31) (small : limit.toNat < 2 ^ 31)
    (fits : ∀ row ∈ r.history channel, row.messageSeq < 2 ^ 63) (inputs : List ReaderInput) :
    let c := run (step channel limit) (start channel latestLimit r) inputs
    (∀ batch ∈ c.batches, batch.Pairwise fun a b => a.messageSeq < b.messageSeq) ∧
      c.received <:+ (r.history channel).map r.message ∧
      (c.exhausted = true → c.received = (r.history channel).map r.message) ∧
      (r.history channel ≠ [] → (r.history channel).length ≤ inputs.countP ReaderInput.answered →
        c.exhausted = true) := by
  obtain ⟨missing, had, start⟩ := inv_start r channel latest
  obtain ⟨missing, had, inv⟩ := start.run small fits inputs
  have split := inv.split
  refine ⟨inv.sorted, ?_, fun done => ?_, fun some enough => ?_⟩
  · rw [inv.received, split]
    exact (List.suffix_append _ _).map r.message
  · rw [inv.received, split, inv.last done, List.nil_append]
  · rcases inv.progress with done | empty | more
    · exact done
    · exact absurd empty some
    · rw [split, List.length_append] at enough
      omega

namespace Paging

open SendMessage SendMessage.Chat

def again (id : String) : MessageRepository.Insert where
  dir := directory .chat
  draws := { lots with messageId := ⟨id⟩ }
  msg := greeting.message ⟨"u"⟩ ⟨id⟩ [] none

/-- Two greetings; the third comes while they are read back one by one. -/
def inputs : List ReaderInput := [.fetch true, .append (again "o"), .fetch false, .fetch true]

def client : Reader :=
  run (step ⟨"c"⟩ 1) (start ⟨"c"⟩ 1 (delivered.2.insert (again "n"))) inputs

theorem history_is_paged_greetings :
    client.received.map Message.messageSeq = [1, 2] ∧ client.exhausted = true := by
  have paged := history_is_paged (delivered.2.insert (again "n")) ⟨"c"⟩ 1 1 (by decide) (by decide)
    (by decide) inputs
  have done : client.exhausted = true := paged.2.2.2 (by decide) (by decide)
  have all : client.received = _ := paged.2.2.1 done
  decide

end Paging

end Reader

/-! ## Catching up -/

namespace CatchUp

def fetchMessagesAfter (r : MessageRepository) (channel : ChannelId) (after : UInt64) (limit : Nat) :
    List Message :=
  ((((r.tables.messages.filter fun row => row.channelId = channel ∧ cursorSeq after < row.messageSeq
    ).insertionSort MessageRow.Newer).reverse).take limit).map r.message

-- `SelectActiveChannelCommand::execute`, past the checks, with a known latest cursor.
-- The reply to an empty list is empty; the batch of another says nothing but its messages.
def catchUp (r : MessageRepository) (readable : Bool) (channel : ChannelId) (known : UInt64)
    (latestLimit : UInt32) : Except Refusal (List Message) :=
  if known = 0 then
    .error (.error .invalidArgument "known_latest_cursor.message_seq is required")
  else
    let limit := Handlers.clampLimit latestLimit.toNat
    if readable = true ∧ 0 ≤ limit then .ok (fetchMessagesAfter r channel known limit.toNat)
    else .error (.error .internalError "Failed to fetch latest messages")

/-- The rows above a number. -/
def newer (r : MessageRepository) (channel : ChannelId) (known : Nat) : List MessageRow :=
  (r.history channel).filter fun row => known < row.messageSeq

variable {r : MessageRepository} {channel : ChannelId} {known : UInt64}

theorem fetchMessagesAfter_eq (signed : known.toNat < 2 ^ 63) (limit : Nat) :
    fetchMessagesAfter r channel known limit =
      ((newer r channel known.toNat).take limit).map r.message := by
  have rows : (r.tables.messages.filter fun row =>
      row.channelId = channel ∧ cursorSeq known < row.messageSeq) = newer r channel known.toNat := by
    simp only [newer, MessageRepository.history, List.filter_filter, cursorSeq_of_lt signed,
      Int.ofNat_lt, Bool.decide_and, Bool.and_comm]
  have ascending : (newer r channel known.toNat).Pairwise fun a b => a.messageSeq < b.messageSeq :=
    (r.history_ascending channel).filter _
  rw [fetchMessagesAfter, rows, MessageRepository.insertionSort_of_ascending ascending,
    List.reverse_reverse]

/-- **The reply has every message above the cursor, in order, exactly when there are no more
than the limit.** -/
theorem catch_up_complete_iff {readable : Bool} {latestLimit : UInt32} {messages : List Message}
    (fits : ∀ row ∈ r.history channel, row.messageSeq < 2 ^ 63)
    (answered : catchUp r readable channel known latestLimit = .ok messages) :
    ((newer r channel known.toNat).map r.message).Sublist messages ↔
      (newer r channel known.toNat).length ≤ (Handlers.clampLimit latestLimit.toNat).toNat := by
  unfold catchUp at answered
  split at answered
  · nomatch answered
  · dsimp only at answered
    split at answered
    · cases answered
      by_cases signed : known.toNat < 2 ^ 63
      · rw [fetchMessagesAfter_eq signed]
        constructor
        · intro all
          have shorter := all.length_le
          simp at shorter
          omega
        · intro few
          rw [List.take_of_length_le few]
      · have none : newer r channel known.toNat = [] := by
          refine List.filter_eq_nil_iff.mpr fun row stored above => signed ?_
          exact (of_decide_eq_true above).trans (fits row stored)
        simp [none]
    · nomatch answered

open Reader.Paging (again)

/-- Three greetings. -/
def greeted : MessageRepository :=
  (SendMessage.Chat.delivered.2.insert (again "n")).insert (again "o")

theorem catch_up_complete_two :
    ((newer greeted ⟨"c"⟩ 1).map greeted.message).Sublist (fetchMessagesAfter greeted ⟨"c"⟩ 1 2) := by
  have answered : catchUp greeted true ⟨"c"⟩ 1 2 = .ok (fetchMessagesAfter greeted ⟨"c"⟩ 1 2) := rfl
  exact (catch_up_complete_iff (by decide) answered).mpr (by decide)

/-- The third greeting is neither in the reply nor on its way. -/
theorem third_greeting_is_missed :
    (newer greeted ⟨"c"⟩ 1).map (·.messageSeq) = [2, 3] ∧
      ∃ messages, catchUp greeted true ⟨"c"⟩ 1 1 = .ok messages ∧
        messages.map (·.messageSeq) = [2] :=
  ⟨by decide, _, rfl, by decide⟩

end CatchUp

end Kergit
