import Kergit.Lib.Maps
import Kergit.Lib.Staged
import Kergit.Ids
import Mathlib.Data.List.Sort
import Mathlib.Data.List.TakeWhile
import Mathlib.Data.String.Basic

/-!
Messages, their tables, and what the database makes of a write.

`005_messages.sql` has three tables: a sequence counter per channel, the messages and
their attachments.  A message takes its sequence number from the counter when it is
inserted; checks, triggers and unique keys can refuse the row, and a refused row takes
the whole transaction back.  What survives is the invariant of the bundled
`MessageRepository`: within a channel, rows stand in the order of their numbers.

- `storeMessage_eq_some`: the one account of what an insert needs and leaves behind.
- `fetchMessages_eq`: a fetch reads the rows of a channel from the newest back.
- `message_stays`: no later insert touches a stored message or its attachments.
-/

namespace Kergit

open Lib

structure MessageId where
  value : String := ""
deriving DecidableEq, Repr

-- `domains/Message.h`.
inductive MessageAttachmentKind where
  | image
  | file
deriving DecidableEq, Repr

structure MessageAttachment where
  id : String := ""
  kind : MessageAttachmentKind := .file
  storageBucket : String := ""
  storageKey : String := ""
  mimeType : String := ""
  displayName : String := ""
  sizeBytes : Nat := 0
deriving DecidableEq, Repr

structure MessageLinkPreview where
  url : String := ""
  title : String := ""
  description : String := ""
  siteName : String := ""
  imageUrl : String := ""
deriving DecidableEq, Repr

-- `domains/Message.h`, without the type and the status nobody reads.  The sequence number is 0
-- until the message is stored.
structure Message where
  id : MessageId := {}
  chId : ChannelId := {}
  senderId : UserId := {}
  text : String := ""
  attachments : List MessageAttachment := []
  linkPreview : Option MessageLinkPreview := none
  messageSeq : Nat := 0
  createdAtUnixUs : Nat := 0
deriving DecidableEq, Repr

/-! ## Text in the database -/

variable (text : String)

/-- `btrim`: the text without the blanks at its ends. -/
def btrim : String :=
  String.ofList
    ((text.toList.dropWhile fun c => c = ' ').reverse.dropWhile fun c => c = ' ').reverse

/-- The text holds something besides blanks. -/
def Inked : Prop := ∃ c ∈ text.toList, c ≠ ' '

instance (text : String) : Decidable (Inked text) :=
  List.decidableBEx (fun c => c ≠ ' ') text.toList

theorem btrim_length_pos : 1 ≤ (btrim text).length ↔ Inked text := by
  unfold btrim Inked
  rw [String.length_ofList, List.length_reverse, Nat.one_le_iff_ne_zero, Ne,
    List.length_eq_zero_iff, List.dropWhile_eq_nil_iff]
  constructor
  · intro some
    by_contra none
    refine some fun c listed => ?_
    have within : c ∈ text.toList :=
      (List.dropWhile_suffix _).subset (List.mem_reverse.mp listed)
    by_contra inked
    exact none ⟨c, within, fun blank => inked (by simp [blank])⟩
  · rintro ⟨c, within, inked⟩ none
    have kept : c ∈ text.toList.dropWhile fun c => c = ' ' := by
      rw [← List.takeWhile_append_dropWhile (p := fun c => decide (c = ' ')) (l := text.toList)]
        at within
      grind [List.mem_takeWhile_imp]
    exact inked (by simpa using none c (List.mem_reverse.mpr kept))

/-- No more characters than bytes. -/
theorem length_le_byteSize : text.length ≤ text.utf8ByteSize := by
  rw [← String.ofList_toList (s := text), String.length_ofList]
  induction text.toList with
  | nil => simp
  | cons c rest ih =>
    have one := Char.utf8Size_pos c
    simp
    omega

theorem textParam_length_le : (textParam text).length ≤ text.length := by
  unfold textParam
  rw [String.length_ofList]
  exact (List.takeWhile_sublist _).length_le

/-! ## The tables -/

-- `kergit_app.messages`.
structure MessageRow where
  id : MessageId
  channelId : ChannelId
  senderId : UserId
  messageSeq : Nat
  content : String
  linkPreview : Option MessageLinkPreview
  createdAt : Nat
deriving DecidableEq, Repr

-- `kergit_app.message_attachments`.
structure AttachmentRow where
  id : String
  messageId : MessageId
  uploadedBy : UserId
  storageBucket : String
  storageKey : String
  fileName : String
  mimeType : Option String
  sizeBytes : Nat
  createdAt : Nat
deriving DecidableEq, Repr

/-- What the triggers read of the other tables: the type of a channel, and of a profile
whether it is deleted. -/
structure Directory where
  channelType : ChannelId → Option ChannelType
  deleted : UserId → Option Bool

-- `kergit_app.channel_message_counters` and the two tables above; the rows in the order of their
-- inserts.
structure MessageTables where
  counters : Map ChannelId Nat := ∅
  messages : List MessageRow := []
  attachments : List AttachmentRow := []

/-- What the database draws for one transaction: ids, and the time. -/
structure Draws where
  messageId : MessageId := {}
  attachmentId : Nat → String
  drawn : ∀ i, attachmentId i ≠ ""
  now : Nat := 0

-- `attachment_kind_from_mime_type`, and `LIKE 'image/%'` in the query.
def attachmentKindFromMimeType (mimeType : String) : MessageAttachmentKind :=
  if "image/".toList <+: mimeType.toList then .image else .file

-- `ORDER BY m.message_seq DESC`.
def MessageRow.Newer (a b : MessageRow) : Prop := b.messageSeq ≤ a.messageSeq

instance : DecidableRel MessageRow.Newer := fun a b =>
  inferInstanceAs (Decidable (b.messageSeq ≤ a.messageSeq))

instance : Std.Total MessageRow.Newer := ⟨fun a b => Nat.le_total b.messageSeq a.messageSeq⟩

instance : IsTrans MessageRow MessageRow.Newer := ⟨fun _ _ _ first second => second.trans first⟩

namespace AttachmentRow

-- `insert_attachments`, what is built from the returned row.
def toAttachment (row : AttachmentRow) : MessageAttachment where
  id := row.id
  kind := attachmentKindFromMimeType (row.mimeType.getD "")
  storageBucket := row.storageBucket
  storageKey := row.storageKey
  mimeType := row.mimeType.getD ""
  displayName := row.fileName
  sizeBytes := row.sizeBytes

/-- Two rows agree neither in the primary key nor in the unique storage key. -/
def Distinct (a b : AttachmentRow) : Prop := a.id ≠ b.id ∧ a.storageKey ≠ b.storageKey
deriving Decidable

-- the query's `ORDER BY ma.created_at ASC, ma.id ASC`.
def Before (a b : AttachmentRow) : Prop :=
  a.createdAt < b.createdAt ∨ a.createdAt = b.createdAt ∧ a.id ≤ b.id

instance : DecidableRel Before := fun _ _ => inferInstanceAs (Decidable (_ ∨ _))

instance : Std.Total Before where
  total a b := by
    rcases Nat.lt_trichotomy a.createdAt b.createdAt with earlier | same | later
    · exact Or.inl (Or.inl earlier)
    · exact (le_total a.id b.id).imp (fun le => Or.inr ⟨same, le⟩) fun le => Or.inr ⟨same.symm, le⟩
    · exact Or.inr (Or.inl later)

instance : IsTrans AttachmentRow Before where
  trans a b c first second := by
    unfold Before at *
    rcases first with earlier | ⟨same, le⟩ <;> rcases second with earlier' | ⟨same', le'⟩
    · exact Or.inl (earlier.trans earlier')
    · exact Or.inl (same' ▸ earlier)
    · exact Or.inl (same ▸ earlier')
    · exact Or.inr ⟨same.trans same', le.trans le'⟩

-- the checks of `message_attachments` and its trigger.
@[mk_iff] structure Valid (dir : Directory) (row : AttachmentRow) : Prop where
  uploader : dir.deleted row.uploadedBy = some false
  bucket : 1 ≤ (btrim row.storageBucket).length ∧ row.storageBucket.length ≤ 80
  key : 1 ≤ (btrim row.storageKey).length ∧ row.storageKey.length ≤ 1024
  fileName : 1 ≤ (btrim row.fileName).length ∧ row.fileName.length ≤ 255
  mimeType : ∀ mime ∈ row.mimeType, mime.length ≤ 120
  size : row.sizeBytes ≤ 15728640

instance (dir : Directory) (row : AttachmentRow) : Decidable (row.Valid dir) :=
  decidable_of_iff' _ (valid_iff dir row)

end AttachmentRow

-- `insert_attachments`, the parameters of one insert.
def attachmentRow (draws : Draws) (message : MessageId) (uploader : UserId) (i : Nat)
    (attachment : MessageAttachment) : AttachmentRow where
  id := draws.attachmentId i
  messageId := message
  uploadedBy := uploader
  storageBucket := textParam attachment.storageBucket
  storageKey := textParam attachment.storageKey
  fileName := textParam
    (if attachment.displayName = "" then attachment.storageKey else attachment.displayName)
  mimeType := if attachment.mimeType = "" then none else some (textParam attachment.mimeType)
  sizeBytes := attachment.sizeBytes
  createdAt := draws.now

/-- The rows of a message's attachments, from the `i`-th draw on. -/
def attachmentRows (draws : Draws) (message : MessageId) (uploader : UserId) :
    Nat → List MessageAttachment → List AttachmentRow
  | _, [] => []
  | i, attachment :: rest =>
    attachmentRow draws message uploader i attachment ::
      attachmentRows draws message uploader (i + 1) rest

/-- The preview can be cast to `jsonb`, which takes no NUL. -/
def MessageLinkPreview.Castable (preview : MessageLinkPreview) : Prop :=
  ∀ field ∈ [preview.url, preview.title, preview.description, preview.siteName, preview.imageUrl],
    Char.ofNat 0 ∉ field.toList
deriving Decidable

namespace MessageTables

variable (dir : Directory) (draws : Draws) (t : MessageTables)

-- `assign_channel_message_seq`; the number, and the counters after it.
def assignSeq (channel : ChannelId) : Nat × Map ChannelId Nat :=
  match t.counters.lookup channel with
  | none => (1, t.counters.insert channel 2)
  | some next => (next, t.counters.insert channel (next + 1))

/-- The row of a message, with the number it gets now. -/
def messageRow (msg : Message) : MessageRow where
  id := msg.id
  channelId := msg.chId
  senderId := msg.senderId
  messageSeq := (t.assignSeq msg.chId).1
  content := textParam msg.text
  linkPreview := msg.linkPreview
  createdAt := draws.now

-- the checks, keys and triggers of `messages`.
@[mk_iff] structure Admits (row : MessageRow) : Prop where
  textChannel : dir.channelType row.channelId = some .chat
  sender : dir.deleted row.senderId = some false
  content : row.content.length ≤ 4000
  seq : 1 ≤ row.messageSeq
  newId : ∀ old ∈ t.messages, old.id ≠ row.id
  newSeq : ∀ old ∈ t.messages, old.channelId = row.channelId → old.messageSeq ≠ row.messageSeq
  preview : ∀ preview ∈ row.linkPreview, preview.Castable

instance (row : MessageRow) : Decidable (t.Admits dir row) :=
  decidable_of_iff' _ (admits_iff dir t row)

-- the checks, keys, references and triggers of `message_attachments`.
@[mk_iff] structure AdmitsAttachment (row : AttachmentRow) : Prop where
  valid : row.Valid dir
  message : ∃ old ∈ t.messages, old.id = row.messageId
  distinct : ∀ old ∈ t.attachments, old.Distinct row

instance (row : AttachmentRow) : Decidable (t.AdmitsAttachment dir row) :=
  decidable_of_iff' _ (admitsAttachment_iff dir t row)

-- `insert_attachments`; what it returns, or nothing if it throws.
def insertAttachments (message : MessageId) (uploader : UserId) :
    Nat → List MessageAttachment → MessageTables → Option (List MessageAttachment × MessageTables)
  | _, [], t => some ([], t)
  | i, attachment :: rest, t =>
    if attachment.storageBucket = "" then none
    else if attachment.storageKey = "" then none
    else
      let row := attachmentRow draws message uploader i attachment
      if t.AdmitsAttachment dir row then
        (insertAttachments message uploader (i + 1) rest
          { t with attachments := t.attachments ++ [row] }).map
          fun result => (row.toAttachment :: result.1, result.2)
      else none

-- `MessageRepository::insertMessage`, `MessageRepository::sendMessage`: the transaction; the
-- message's row and its attachments, or nothing if it throws.
def storeMessage (msg : Message) : Option (MessageRow × List MessageAttachment × MessageTables) :=
  let row := t.messageRow draws msg
  if t.Admits dir row then
    (insertAttachments dir draws msg.id msg.senderId 0 msg.attachments
      { t with
        counters := (t.assignSeq msg.chId).2
        messages := t.messages ++ [row] }).map fun result => (row, result)
  else none

/-- The tables with a message's rows. -/
def withMessage (msg : Message) : MessageTables where
  counters := (t.assignSeq msg.chId).2
  messages := t.messages ++ [t.messageRow draws msg]
  attachments := t.attachments ++ attachmentRows draws msg.id msg.senderId 0 msg.attachments

/-- What an insert needs. -/
structure Takes (msg : Message) : Prop where
  row : t.Admits dir (t.messageRow draws msg)
  named : ∀ attachment ∈ msg.attachments,
    attachment.storageBucket ≠ "" ∧ attachment.storageKey ≠ ""
  valid : ∀ row ∈ attachmentRows draws msg.id msg.senderId 0 msg.attachments, row.Valid dir
  apart : (attachmentRows draws msg.id msg.senderId 0 msg.attachments).Pairwise
    AttachmentRow.Distinct
  unstored : ∀ old ∈ t.attachments,
    ∀ row ∈ attachmentRows draws msg.id msg.senderId 0 msg.attachments, old.Distinct row

end MessageTables

section Inserts

variable {dir : Directory} {draws : Draws} {t t' : MessageTables} {message : MessageId}
  {uploader : UserId} {i : Nat} {attachments inserted : List MessageAttachment}

/-- The rows share the message and the time. -/
theorem attachmentRows_shared (listed : row ∈ attachmentRows draws message uploader i attachments) :
    row.messageId = message ∧ row.createdAt = draws.now := by
  induction attachments generalizing i with
  | nil => nomatch listed
  | cons attachment rest ih =>
    rcases List.mem_cons.mp listed with rfl | later
    · exact ⟨rfl, rfl⟩
    · exact ih later

/-- The ids are the draws, in order. -/
theorem attachmentRows_ids :
    (attachmentRows draws message uploader i attachments).map (fun row => row.id) =
      (List.range attachments.length).map fun k => draws.attachmentId (i + k) := by
  induction attachments generalizing i with
  | nil => rfl
  | cons attachment rest ih =>
    simp only [attachmentRows, List.map_cons, ih, List.length_cons, List.range_succ_eq_map,
      List.map_map]
    refine congrArg₂ List.cons rfl (List.map_congr_left fun k _ => ?_)
    congr 1
    omega

/-- The rows go in beside the stored ones, one after the other. -/
@[mk_iff] structure RowsFit (dir : Directory) (stored rows : List AttachmentRow) : Prop where
  valid : ∀ row ∈ rows, row.Valid dir
  apart : rows.Pairwise AttachmentRow.Distinct
  unstored : ∀ old ∈ stored, ∀ row ∈ rows, old.Distinct row

theorem rowsFit_cons : RowsFit dir stored (row :: rows) ↔
      (row.Valid dir ∧ ∀ old ∈ stored, old.Distinct row) ∧ RowsFit dir (stored ++ [row]) rows := by
  simp only [rowsFit_iff, List.forall_mem_cons, List.pairwise_cons, List.forall_mem_append,
    forall_and]
  tauto

/-- The loop over the attachments: all rows go in, or none. -/
theorem insertAttachments_eq_some (known : ∃ old ∈ t.messages, old.id = message) :
    MessageTables.insertAttachments dir draws message uploader i attachments t =
        some (inserted, t') ↔
      (∀ attachment ∈ attachments, attachment.storageBucket ≠ "" ∧ attachment.storageKey ≠ "") ∧
      RowsFit dir t.attachments (attachmentRows draws message uploader i attachments) ∧
      inserted = (attachmentRows draws message uploader i attachments).map
        AttachmentRow.toAttachment ∧
      t' = { t with
        attachments := t.attachments ++ attachmentRows draws message uploader i attachments } := by
  induction attachments generalizing i t t' inserted with
  | nil =>
    simp only [MessageTables.insertAttachments, attachmentRows, rowsFit_iff, Option.some.injEq,
      Prod.mk.injEq, List.append_nil, List.not_mem_nil, false_implies, implies_true, true_and,
      List.Pairwise.nil]
    exact and_congr eq_comm eq_comm
  | cons attachment rest ih =>
    have admits : t.AdmitsAttachment dir (attachmentRow draws message uploader i attachment) ↔
        (attachmentRow draws message uploader i attachment).Valid dir ∧
          ∀ old ∈ t.attachments,
            old.Distinct (attachmentRow draws message uploader i attachment) := by
      rw [MessageTables.admitsAttachment_iff]
      exact and_congr_right fun _ => and_iff_right known
    rw [attachmentRows, rowsFit_cons, ← admits, List.forall_mem_cons, MessageTables.insertAttachments]
    by_cases unnamed : attachment.storageBucket = ""
    · simp [unnamed]
    by_cases keyless : attachment.storageKey = ""
    · simp [keyless]
    by_cases admitted : t.AdmitsAttachment dir (attachmentRow draws message uploader i attachment)
    · rw [if_neg unnamed, if_neg keyless]
      rw [if_pos admitted, Option.map_eq_some_iff]
      constructor
      · rintro ⟨⟨last, after⟩, done, pair⟩
        obtain ⟨rfl, rfl⟩ := Prod.mk.inj pair
        obtain ⟨named, fits, rfl, rfl⟩ := (ih (by exact known)).mp done
        exact ⟨⟨⟨unnamed, keyless⟩, named⟩, ⟨admitted, fits⟩, rfl, by simp⟩
      · rintro ⟨⟨-, named⟩, ⟨-, fits⟩, rfl, rfl⟩
        exact ⟨_, (ih (by exact known)).mpr ⟨named, fits, rfl, rfl⟩, by simp⟩
    · simp [admitted]

/-- **What an insert needs, and what it leaves.** -/
theorem storeMessage_eq_some : t.storeMessage dir draws msg = some (row, inserted, t') ↔
      t.Takes dir draws msg ∧ row = t.messageRow draws msg ∧
      inserted = (attachmentRows draws msg.id msg.senderId 0 msg.attachments).map
        AttachmentRow.toAttachment ∧ t' = t.withMessage draws msg := by
  have known : ∃ old ∈ t.messages ++ [t.messageRow draws msg], old.id = msg.id :=
    ⟨t.messageRow draws msg, by simp, rfl⟩
  unfold MessageTables.storeMessage
  simp only
  split
  · rename_i admitted
    rw [Option.map_eq_some_iff]
    constructor
    · rintro ⟨⟨last, after⟩, done, pair⟩
      obtain ⟨rfl, rfl, rfl⟩ : t.messageRow draws msg = row ∧ last = inserted ∧ after = t' := by
        simpa using pair
      obtain ⟨named, fits, rfl, rfl⟩ := (insertAttachments_eq_some known).mp done
      exact ⟨⟨admitted, named, fits.valid, fits.apart, fits.unstored⟩, rfl, rfl, rfl⟩
    · rintro ⟨takes, rfl, rfl, rfl⟩
      exact ⟨_, (insertAttachments_eq_some known).mpr
        ⟨takes.named, ⟨takes.valid, takes.apart, takes.unstored⟩, rfl, rfl⟩, rfl⟩
  · rename_i refused
    simp only [reduceCtorEq, false_iff]
    exact fun takes => refused takes.1.row

theorem storeMessage_isSome : (t.storeMessage dir draws msg).isSome ↔ t.Takes dir draws msg := by
  rw [Option.isSome_iff_exists]
  constructor
  · rintro ⟨⟨row, inserted, t'⟩, done⟩
    exact (storeMessage_eq_some.mp done).1
  · exact fun takes => ⟨(_, _, _), storeMessage_eq_some.mpr ⟨takes, rfl, rfl, rfl⟩⟩

end Inserts

/-! ## The repository -/

/-- Numbers grow within a channel and stay below its counter, ids are unique, and an
attachment has its message. -/
structure MessageTables.Consistent (t : MessageTables) : Prop where
  ordered : t.messages.Pairwise fun a b =>
    a.id ≠ b.id ∧ (a.channelId = b.channelId → a.messageSeq < b.messageSeq)
  numbered : ∀ row ∈ t.messages, 1 ≤ row.messageSeq ∧
    ∃ next, t.counters.lookup row.channelId = some next ∧ row.messageSeq < next
  counted : ∀ channel next, t.counters.lookup channel = some next → 1 ≤ next
  owned : ∀ row ∈ t.attachments, ∃ message ∈ t.messages, message.id = row.messageId

namespace MessageTables

variable {dir : Directory} {draws : Draws} {t : MessageTables} {msg : Message}

theorem consistent_empty : Consistent {} where
  ordered := List.Pairwise.nil
  numbered := by simp
  counted := by simp
  owned := by simp

/-- The number a message gets is past those of its channel. -/
theorem Consistent.lt_messageRow (consistent : t.Consistent)
    (stored : row ∈ t.messages) (same : row.channelId = msg.chId) :
    row.messageSeq < (t.messageRow draws msg).messageSeq := by
  obtain ⟨_, next, counter, below⟩ := consistent.numbered row stored
  rw [same] at counter
  simpa only [messageRow, assignSeq, counter] using below

theorem Consistent.same_id (consistent : t.Consistent)
    (first : a ∈ t.messages) (second : b ∈ t.messages) (id : a.id = b.id) : a = b := by
  have apart : (t.messages.map MessageRow.id).Nodup :=
    List.pairwise_map.mpr (consistent.ordered.imp And.left)
  exact List.inj_on_of_nodup_map apart first second id

theorem counter_assignSeq (channel : ChannelId) :
    (t.assignSeq channel).2.lookup channel = some ((t.assignSeq channel).1 + 1) := by
  unfold assignSeq
  split <;> rw [Map.lookup_insert_if, if_pos rfl]

theorem counter_assignSeq_of_ne (ne : other ≠ channel) :
    (t.assignSeq channel).2.lookup other = t.counters.lookup other := by
  unfold assignSeq
  split <;> rw [Map.lookup_insert_if, if_neg ne]

theorem Consistent.withMessage (consistent : t.Consistent) (takes : t.Takes dir draws msg) :
    (t.withMessage draws msg).Consistent where
  ordered := by
    refine List.pairwise_append.mpr ⟨consistent.ordered, List.pairwise_singleton _ _, ?_⟩
    intro old stored row new
    rw [List.mem_singleton.mp new]
    exact ⟨takes.row.newId old stored, consistent.lt_messageRow stored⟩
  numbered := by
    intro row stored
    rcases List.mem_append.mp stored with before | new
    · obtain ⟨positive, next, counter, below⟩ := consistent.numbered row before
      refine ⟨positive, ?_⟩
      by_cases same : row.channelId = msg.chId
      · have grown : row.messageSeq < (t.messageRow draws msg).messageSeq :=
          consistent.lt_messageRow before same
        refine ⟨_, by rw [same]; exact counter_assignSeq msg.chId, ?_⟩
        exact Nat.lt_succ_of_lt grown
      · exact ⟨next, (counter_assignSeq_of_ne same).trans counter, below⟩
    · rw [List.mem_singleton.mp new]
      exact ⟨takes.row.seq, _, counter_assignSeq msg.chId, Nat.lt_succ_self _⟩
  counted := by
    intro channel next counter
    by_cases same : channel = msg.chId
    · rw [same] at counter
      have is := (counter_assignSeq msg.chId).symm.trans counter
      exact Option.some.inj is ▸ Nat.le_add_left 1 _
    · exact consistent.counted channel next ((counter_assignSeq_of_ne same).symm.trans counter)
  owned := by
    intro row stored
    rcases List.mem_append.mp stored with before | new
    · obtain ⟨message, listed, is⟩ := consistent.owned row before
      exact ⟨message, List.mem_append_left _ listed, is⟩
    · refine ⟨t.messageRow draws msg, List.mem_append_right _ List.mem_cons_self, ?_⟩
      exact (attachmentRows_shared new).1.symm

end MessageTables

structure MessageRepository where
  tables : MessageTables
  consistent : tables.Consistent

/-- A number given is at least one: counters start at two. -/
theorem MessageRepository.one_le_seq (r : MessageRepository) (channel : ChannelId) :
    1 ≤ (r.tables.assignSeq channel).1 := by
  unfold MessageTables.assignSeq
  split
  · exact le_refl 1
  · rename_i next counter
    exact r.consistent.counted channel next counter

-- `from_json_attachments`, on what the query aggregates.
def fromJsonAttachments (rows : List AttachmentRow) : List MessageAttachment :=
  (rows.map AttachmentRow.toAttachment).filter fun attachment =>
    attachment.id ≠ "" ∧ attachment.storageKey ≠ ""

-- `from_json_link_preview`.
def fromJsonLinkPreview (preview : MessageLinkPreview) : Option MessageLinkPreview :=
  if preview.url = "" then none else some preview

-- `row_to_message`.
def rowToMessage (row : MessageRow) (attachments : List AttachmentRow) : Message where
  id := row.id
  chId := row.channelId
  senderId := row.senderId
  text := row.content
  attachments := fromJsonAttachments attachments
  linkPreview := row.linkPreview.bind fromJsonLinkPreview
  messageSeq := row.messageSeq
  createdAtUnixUs := row.createdAt

namespace MessageRepository

variable (dir : Directory) (draws : Draws) (r : MessageRepository)

def empty : MessageRepository := ⟨{}, MessageTables.consistent_empty⟩

-- `MessageRepository::insertMessage`; nothing if it throws.
def insertMessage (msg : Message) : Option MessageRepository :=
  match done : r.tables.storeMessage dir draws msg with
  | none => none
  | some (_, _, t) =>
    some ⟨t, by
      obtain ⟨takes, _, _, is⟩ := storeMessage_eq_some.mp done
      exact is ▸ r.consistent.withMessage takes⟩

-- `MessageRepository::sendMessage`; nothing if it throws.  The message it returns is read off the
-- returned rows.
def sendMessage (channelId : ChannelId) (senderId : UserId) (content : String)
    (attachments : List MessageAttachment) (linkPreview : Option MessageLinkPreview) :
    Option (Message × MessageRepository) :=
  match done : r.tables.storeMessage dir draws
      { id := draws.messageId, chId := channelId, senderId, text := content, attachments,
        linkPreview } with
  | none => none
  | some (row, inserted, t) =>
    some ({ rowToMessage row [] with attachments := inserted },
      ⟨t, by
        obtain ⟨takes, _, _, is⟩ := storeMessage_eq_some.mp done
        exact is ▸ r.consistent.withMessage takes⟩)

-- `message_from_clause`; the attachments of a message, as they are aggregated.
def attachmentsOf (id : MessageId) : List AttachmentRow :=
  (r.tables.attachments.filter fun row => row.messageId = id).insertionSort AttachmentRow.Before

/-- The message of a row, as a query reads it. -/
def message (row : MessageRow) : Message := rowToMessage row (r.attachmentsOf row.id)

-- `MessageRepository::fetchMessages`.
def fetchMessages (channel : ChannelId) (limit : Nat) : List Message :=
  (((r.tables.messages.filter fun row => row.channelId = channel).insertionSort
    MessageRow.Newer).take limit).map r.message

variable {dir draws r} {r' : MessageRepository} {msg live : Message}

theorem ext_tables (same : r.tables = r'.tables) : r = r' := by
  cases r
  cases same
  rfl

theorem insertMessage_eq_some : r.insertMessage dir draws msg = some r' ↔
    r.tables.Takes dir draws msg ∧ r'.tables = r.tables.withMessage draws msg := by
  unfold insertMessage
  split
  · rename_i refused
    simp only [reduceCtorEq, false_iff]
    rintro ⟨takes, _⟩
    rw [storeMessage_eq_some.mpr ⟨takes, rfl, rfl, rfl⟩] at refused
    nomatch refused
  · rename_i row inserted t done
    obtain ⟨takes, rfl, rfl, rfl⟩ := storeMessage_eq_some.mp done
    constructor
    · grind
    · exact fun is => congrArg some (ext_tables is.2.symm)

theorem sendMessage_eq_some (request : msg =
      { id := draws.messageId, chId := channelId, senderId, text := content, attachments,
        linkPreview }) :
    r.sendMessage dir draws channelId senderId content attachments linkPreview = some (live, r') ↔
      r.tables.Takes dir draws msg ∧ live = { rowToMessage (r.tables.messageRow draws msg) [] with
        attachments := (attachmentRows draws msg.id senderId 0 attachments).map
          AttachmentRow.toAttachment } ∧
      r'.tables = r.tables.withMessage draws msg := by
  subst request
  unfold sendMessage
  split
  · rename_i refused
    simp only [reduceCtorEq, false_iff]
    rintro ⟨takes, _⟩
    rw [storeMessage_eq_some.mpr ⟨takes, rfl, rfl, rfl⟩] at refused
    nomatch refused
  · rename_i row inserted t done
    obtain ⟨takes, rfl, rfl, rfl⟩ := storeMessage_eq_some.mp done
    constructor
    · grind
    · rintro ⟨_, rfl, is⟩
      exact congrArg some (Prod.ext rfl (ext_tables is.symm))

theorem insertionSort_of_ascending {rows : List MessageRow}
    (ascending : rows.Pairwise fun a b => a.messageSeq < b.messageSeq) :
    rows.insertionSort MessageRow.Newer = rows.reverse := by
  have apart : (rows.map MessageRow.messageSeq).Nodup :=
    List.pairwise_map.mpr (ascending.imp Nat.ne_of_lt)
  refine List.Perm.eq_of_pairwise ?_ (List.pairwise_insertionSort _ _)
    (List.pairwise_reverse.mpr (ascending.imp Nat.le_of_lt))
    ((List.perm_insertionSort _ _).trans (List.reverse_perm _).symm)
  intro a b first second lower upper
  exact List.inj_on_of_nodup_map apart ((List.mem_insertionSort _).mp first)
    (List.mem_reverse.mp second) (Nat.le_antisymm upper lower)

/-- The rows of a channel stand in the order of their numbers. -/
theorem ascending (r : MessageRepository) (channel : ChannelId) :
    (r.tables.messages.filter fun row => row.channelId = channel).Pairwise
      fun a b => a.messageSeq < b.messageSeq := by
  refine (r.consistent.ordered.filter _).imp_of_mem fun first second lower => ?_
  have left := of_decide_eq_true (List.mem_filter.mp first).2
  have right := of_decide_eq_true (List.mem_filter.mp second).2
  exact lower.2 (left.trans right.symm)

/-- A fetch reads a channel's rows from the newest back. -/
theorem fetchMessages_eq (channel : ChannelId) (limit : Nat) :
    r.fetchMessages channel limit =
      ((r.tables.messages.filter fun row => row.channelId = channel).reverse.take limit).map
        r.message := by
  rw [fetchMessages, insertionSort_of_ascending (r.ascending channel)]

/-! ## A stored message stays -/

/-- One insert after another; one that throws changes nothing. -/
structure Insert where
  dir : Directory
  draws : Draws
  msg : Message

def insert (r : MessageRepository) (next : Insert) : MessageRepository :=
  (r.insertMessage next.dir next.draws next.msg).getD r

/-- The row and the attachments of a message, as they were stored. -/
structure Holds (row : MessageRow) (attachments : List AttachmentRow) (r : MessageRepository) :
    Prop where
  stored : row ∈ r.tables.messages
  attached : (r.tables.attachments.filter fun a => a.messageId = row.id) = attachments

variable {row : MessageRow} {attachments : List AttachmentRow}

/-- An insert holds what it inserted. -/
theorem holds_withMessage (takes : r.tables.Takes dir draws msg)
    (is : r'.tables = r.tables.withMessage draws msg) :
    Holds (r.tables.messageRow draws msg)
      (attachmentRows draws msg.id msg.senderId 0 msg.attachments) r' where
  stored := by
    rw [is]
    exact List.mem_append_right _ List.mem_cons_self
  attached := by
    rw [is]
    simp [MessageTables.withMessage]
    have none : (r.tables.attachments.filter fun a => a.messageId = msg.id) = [] := by
      refine List.filter_eq_nil_iff.mpr fun old stored is => ?_
      obtain ⟨message, listed, same⟩ := r.consistent.owned old stored
      exact takes.row.newId message listed (same.trans (of_decide_eq_true is))
    have all : ((attachmentRows draws msg.id msg.senderId 0 msg.attachments).filter
        fun a => a.messageId = msg.id) =
          attachmentRows draws msg.id msg.senderId 0 msg.attachments :=
      List.filter_eq_self.mpr fun a listed => decide_eq_true (attachmentRows_shared listed).1
    exact (congrArg₂ (· ++ ·) none all).trans (List.nil_append _)

theorem Holds.insert (holds : Holds row attachments r) (next : Insert) :
    Holds row attachments (r.insert next) := by
  unfold MessageRepository.insert
  cases done : r.insertMessage next.dir next.draws next.msg with
  | none => exact holds
  | some r' =>
    obtain ⟨takes, is⟩ := insertMessage_eq_some.mp done
    constructor
    · simp [is]
      exact List.mem_append_left _ holds.stored
    · simp only [Option.getD_some, is, MessageTables.withMessage, List.filter_append, holds.attached]
      refine (congrArg _ (List.filter_eq_nil_iff.mpr fun a listed is => ?_)).trans
        (List.append_nil _)
      have new : row.id = next.msg.id :=
        (of_decide_eq_true is).symm.trans (attachmentRows_shared listed).1
      exact takes.row.newId row holds.stored new

/-- **No later insert touches a stored message.** -/
theorem message_stays (holds : Holds row attachments r) (later : List Insert) :
    Holds row attachments (run insert r later) :=
  run_invariant (fun _ next kept => kept.insert next) holds

end MessageRepository

end Kergit
