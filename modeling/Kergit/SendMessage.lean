import Kergit.MessageRepository
import Kergit.VoiceCommands

/-!
The checks of a MESSAGE_SEND, and the message it makes.

`SendMessageCommand` counts bytes where the tables count characters, and leaves the
channel's type, blank names and the uniqueness of storage keys to the database.  The
first half says which accepted messages the database takes; the second compares the
message that is broadcast with the one a later fetch reads.

- `accepted_storable_iff`: an accepted message is storable exactly if it `Fits`.
- `live_is_stored_iff`: the broadcast and the fetched message agree exactly if the
  write was synchronous and the ids drawn for the attachments ascend.
-/

namespace Kergit

open Lib

open VoiceState (Refusal)

-- `proto/domain/message.proto`, `MessageAttachmentKind`; the enumeration is open.
inductive ProtoAttachmentKind where
  | unspecified
  | image
  | file
  | unrecognized (number : Int)
deriving DecidableEq, Repr

structure ProtoAttachment where
  id : String
  kind : ProtoAttachmentKind := .unspecified
  storageKey : String
  mimeType : String := ""
  displayName : String
  sizeBytes : Nat
  storageBucket : String
deriving DecidableEq, Repr

-- `proto/command/message.proto`, `SendMessage`.  The fields of a preview are
-- those of the domain's.
structure SendMessage where
  hubId : HubId
  channelId : ChannelId
  content : String := ""
  attachments : List ProtoAttachment := []
  linkPreview : Option MessageLinkPreview := none
deriving DecidableEq, Repr

namespace SendMessage

def isHttpOrHttps (value : String) : Prop :=
  "https://".toList <+: value.toList ∨ "http://".toList <+: value.toList
deriving Decidable

@[mk_iff] structure Acceptable (folder : String) (input : ProtoAttachment) : Prop where
  named : input.id ≠ "" ∧ input.storageKey ≠ "" ∧ input.storageBucket ≠ "" ∧
    input.displayName ≠ ""
  inFolder : folder = "" ∨ folder.toList <+: input.storageKey.toList
  displayName : input.displayName.utf8ByteSize ≤ 255
  mimeType : input.mimeType.utf8ByteSize ≤ 127
  storageKey : input.storageKey.utf8ByteSize ≤ 1024
  storageBucket : input.storageBucket.utf8ByteSize ≤ 80
  size : input.sizeBytes ≠ 0 ∧ input.sizeBytes ≤ 15 * 1024 * 1024

instance (folder : String) (input : ProtoAttachment) : Decidable (Acceptable folder input) :=
  decidable_of_iff' _ (acceptable_iff folder input)

def toAttachment (input : ProtoAttachment) : MessageAttachment where
  id := input.id
  kind := if input.kind = .image then .image else .file
  storageBucket := input.storageBucket
  storageKey := input.storageKey
  mimeType := input.mimeType
  displayName := input.displayName
  sizeBytes := input.sizeBytes

def parseAttachments (folder : String) : List ProtoAttachment → Option (List MessageAttachment)
  | [] => some []
  | input :: rest =>
    if Acceptable folder input then
      (parseAttachments folder rest).map fun parsed => toAttachment input :: parsed
    else none

-- `parse_link_preview`, on a preview that is there.
def parseLinkPreview (raw : MessageLinkPreview) : Option MessageLinkPreview :=
  if raw.url = "" then none
  else if ¬ isHttpOrHttps raw.url then none
  else if raw.imageUrl ≠ "" ∧ ¬ isHttpOrHttps raw.imageUrl then none
  else if 2048 < raw.url.utf8ByteSize ∨ 2048 < raw.title.utf8ByteSize ∨
      2048 < raw.description.utf8ByteSize ∨ 2048 < raw.siteName.utf8ByteSize ∨
      2048 < raw.imageUrl.utf8ByteSize then none
  else some raw

def folder (cmd : SendMessage) (user : UserId) : String :=
  cmd.hubId.value ++ "/" ++ cmd.channelId.value ++ "/" ++ user.value ++ "/"

-- `SendMessageCommand::execute`, the checks between the session and the hub
-- lookups; the parsed attachments and preview.
def check (cmd : SendMessage) (user : UserId) :
    Except Refusal (List MessageAttachment × Option MessageLinkPreview) :=
  if 4096 < cmd.content.utf8ByteSize then
    .error (.error .invalidArgument "Message content must be between 0 and 4096 characters")
  else if 6 < cmd.attachments.length then .error (.error .invalidArgument "Too many attachments")
  else
    match parseAttachments (cmd.folder user) cmd.attachments with
    | none => .error (.error .invalidArgument "Invalid attachment payload")
    | some attachments =>
      let linkPreview := cmd.linkPreview.bind parseLinkPreview
      if cmd.linkPreview.isSome ∧ linkPreview = none then
        .error (.error .invalidArgument "Invalid link preview payload")
      else if cmd.content = "" ∧ attachments = [] then
        .error (.error .invalidArgument "Message content or attachments are required")
      else .ok (attachments, linkPreview)

variable {cmd : SendMessage} {user : UserId} {attachments : List MessageAttachment}
  {linkPreview : Option MessageLinkPreview}

theorem parseAttachments_eq_some : parseAttachments place inputs = some attachments ↔
      (∀ input ∈ inputs, Acceptable place input) ∧ attachments = inputs.map toAttachment := by
  induction inputs generalizing attachments with
  | nil => simp [parseAttachments]
  | cons input rest ih =>
    unfold parseAttachments
    split
    · rw [Option.map_eq_some_iff]
      grind
    · grind

/-- What the checks establish. -/
structure Checked (cmd : SendMessage) (user : UserId) (attachments : List MessageAttachment)
    (linkPreview : Option MessageLinkPreview) : Prop where
  parsed : attachments = cmd.attachments.map toAttachment
  acceptable : ∀ input ∈ cmd.attachments, Acceptable (cmd.folder user) input
  preview : linkPreview = cmd.linkPreview

theorem check_eq_ok (accepted : cmd.check user = .ok (attachments, linkPreview)) :
    Checked cmd user attachments linkPreview := by
  unfold check at accepted
  split at accepted
  · nomatch accepted
  split at accepted
  · nomatch accepted
  split at accepted
  · nomatch accepted
  rename_i found parsed
  simp only at accepted
  split at accepted
  · nomatch accepted
  rename_i previewed
  split at accepted
  · nomatch accepted
  obtain ⟨rfl, rfl⟩ := Prod.mk.inj (Except.ok.inj accepted)
  obtain ⟨acceptable, is⟩ := parseAttachments_eq_some.mp parsed
  refine ⟨is, acceptable, ?_⟩
  cases given : cmd.linkPreview with
  | none => rfl
  | some raw =>
    rw [given] at previewed
    cases done : parseLinkPreview raw with
    | none => exact absurd ⟨rfl, done⟩ previewed
    | some preview =>
      have same : preview = raw := by
        unfold parseLinkPreview at done
        grind
      rw [Option.bind_some, done, same]

/-! ## Which accepted messages the database takes -/

def message (cmd : SendMessage) (user : UserId) (id : MessageId)
    (attachments : List MessageAttachment) (linkPreview : Option MessageLinkPreview) : Message where
  id := id
  chId := cmd.channelId
  senderId := user
  text := cmd.content
  attachments := attachments
  linkPreview := linkPreview

/-- The sender's profile is active, the ids are texts of UUIDs, and those drawn are new. -/
structure Setting (dir : Directory) (draws : Draws) (r : MessageRepository) (cmd : SendMessage)
    (user : UserId) (id : MessageId) : Prop where
  sender : dir.deleted user = some false
  plain : ∀ text ∈ [cmd.hubId.value, cmd.channelId.value, user.value], Char.ofNat 0 ∉ text.toList
  newId : ∀ old ∈ r.tables.messages, old.id ≠ id
  drawn : ((List.range cmd.attachments.length).map draws.attachmentId).Nodup
  undrawn : ∀ i < cmd.attachments.length, ∀ old ∈ r.tables.attachments,
    old.id ≠ draws.attachmentId i

/-- What the checks leave to the database. -/
structure Fits (dir : Directory) (r : MessageRepository) (cmd : SendMessage) : Prop where
  textChannel : dir.channelType cmd.channelId = some .chat
  content : (textParam cmd.content).length ≤ 4000
  preview : ∀ preview ∈ cmd.linkPreview, preview.Castable
  bucket : ∀ input ∈ cmd.attachments, Inked (textParam input.storageBucket)
  displayName : ∀ input ∈ cmd.attachments, Inked (textParam input.displayName)
  mimeType : ∀ input ∈ cmd.attachments, (textParam input.mimeType).length ≤ 120
  keys : (cmd.attachments.map fun input => textParam input.storageKey).Nodup
  unstored : ∀ input ∈ cmd.attachments, ∀ old ∈ r.tables.attachments,
    old.storageKey ≠ textParam input.storageKey

section Rows

variable {dir : Directory} {draws : Draws} {message : MessageId} {uploader : UserId} {i : Nat}

theorem rows_forall {P : AttachmentRow → Prop}
    (blind : ∀ i j attachment, P (attachmentRow draws message uploader i attachment) →
      P (attachmentRow draws message uploader j attachment)) :
    (∀ row ∈ attachmentRows draws message uploader i attachments, P row) ↔
      ∀ attachment ∈ attachments, P (attachmentRow draws message uploader 0 attachment) := by
  induction attachments generalizing i with
  | nil => simp [attachmentRows]
  | cons attachment rest ih =>
    rw [attachmentRows, List.forall_mem_cons, List.forall_mem_cons, ih]
    exact and_congr_left fun _ => ⟨blind i 0 attachment, blind 0 i attachment⟩

theorem rows_keys :
    (attachmentRows draws message uploader i attachments).map (fun row => row.storageKey) =
      attachments.map fun attachment => textParam attachment.storageKey := by
  induction attachments generalizing i with
  | nil => rfl
  | cons attachment rest ih => exact congrArg₂ List.cons rfl ih

theorem row_mimeType (given : text ∈ (attachmentRow draws message uploader i attachment).mimeType) :
    text = textParam attachment.mimeType := by
  unfold attachmentRow at given
  grind

theorem textParam_le (bytes : text.utf8ByteSize ≤ bound) : (textParam text).length ≤ bound :=
  (textParam_length_le text).trans ((length_le_byteSize text).trans bytes)

/-- A key below the sender's folder has a slash in it. -/
theorem inked_storageKey (acceptable : Acceptable (cmd.folder user) input)
    (plain : ∀ text ∈ [cmd.hubId.value, cmd.channelId.value, user.value],
      Char.ofNat 0 ∉ text.toList) : Inked (textParam input.storageKey) := by
  obtain ⟨hub, _⟩ := List.forall_mem_cons.mp plain
  rcases acceptable.inFolder with empty | ⟨rest, key⟩
  · have length := congrArg String.length empty
    simp [folder] at length
  · have shape : input.storageKey.toList = cmd.hubId.value.toList ++ '/' ::
        ("" ++ cmd.channelId.value ++ "/" ++ user.value ++ "/").toList ++ rest := by
      rw [← key]
      simp [folder]
    refine ⟨'/', ?_, by decide⟩
    rw [textParam, shape, List.append_assoc]
    rw [List.takeWhile_append_of_pos]
    · simp
    · intro c listed
      exact decide_eq_true fun is => hub (is ▸ listed)

/-- Of an acceptable attachment, the checks of the row left open are three. -/
theorem valid_row_iff (acceptable : Acceptable (cmd.folder user) input)
    (sender : dir.deleted user = some false)
    (plain : ∀ text ∈ [cmd.hubId.value, cmd.channelId.value, user.value],
      Char.ofNat 0 ∉ text.toList) :
    (attachmentRow draws message user i (toAttachment input)).Valid dir ↔
      Inked (textParam input.storageBucket) ∧ Inked (textParam input.displayName) ∧
        (textParam input.mimeType).length ≤ 120 := by
  have file : (attachmentRow draws message user i (toAttachment input)).fileName =
      textParam input.displayName := by
    simp [attachmentRow, toAttachment, acceptable.named.2.2.2]
  rw [AttachmentRow.valid_iff, file, btrim_length_pos, btrim_length_pos, btrim_length_pos]
  constructor
  · rintro ⟨_, bucket, _, name, mime, _⟩
    refine ⟨bucket.1, name.1, ?_⟩
    by_cases empty : input.mimeType = ""
    · rw [empty]
      decide
    · exact mime _ (by simp [attachmentRow, toAttachment, empty])
  · rintro ⟨bucket, name, mime⟩
    refine ⟨sender, ⟨bucket, textParam_le acceptable.storageBucket⟩,
      ⟨inked_storageKey acceptable plain, textParam_le acceptable.storageKey⟩,
      ⟨name, textParam_le acceptable.displayName⟩, ?_, acceptable.size.2⟩
    intro text given
    rw [row_mimeType given]
    exact mime

/-- Distinct ids drawn, the rows are distinct if their keys are. -/
theorem rows_distinct_iff
    (drawn : ((List.range attachments.length).map draws.attachmentId).Nodup) :
    (attachmentRows draws message uploader 0 attachments).Pairwise AttachmentRow.Distinct ↔
      (attachments.map fun attachment => textParam attachment.storageKey).Nodup := by
  have ids : (attachmentRows draws message uploader 0 attachments).Pairwise
      fun a b => a.id ≠ b.id := by
    have nodup : ((attachmentRows draws message uploader 0 attachments).map
        fun row => row.id).Nodup := by
      rw [attachmentRows_ids]
      simpa only [Nat.zero_add] using drawn
    exact List.pairwise_map.mp nodup
  rw [← @rows_keys _ draws message uploader 0, List.Nodup, List.pairwise_map]
  constructor
  · exact fun distinct => distinct.imp fun apart => apart.2
  · exact fun keys => ids.and keys

end Rows

variable {dir : Directory} {draws : Draws} {r : MessageRepository} {id : MessageId}

/-- **Which accepted messages are storable.**  Of everything the tables ask for, the
checks ensure all but what `Fits` lists. -/
theorem accepted_storable_iff (accepted : cmd.check user = .ok (attachments, linkPreview))
    (setting : Setting dir draws r cmd user id) :
    (r.tables.storeMessage dir draws (cmd.message user id attachments linkPreview)).isSome ↔
      Fits dir r cmd := by
  obtain ⟨rfl, acceptable, rfl⟩ := check_eq_ok accepted
  have drawn : ((List.range (cmd.attachments.map toAttachment).length).map
      draws.attachmentId).Nodup := by
    rw [List.length_map]
    exact setting.drawn
  have blind : ∀ i j attachment, (attachmentRow draws id user i attachment).Valid dir →
      (attachmentRow draws id user j attachment).Valid dir :=
    fun _ _ _ valid => ⟨valid.1, valid.2, valid.3, valid.4, valid.5, valid.6⟩
  rw [storeMessage_isSome]
  constructor
  · intro takes
    have valid := fun input listed => (valid_row_iff (acceptable input listed) setting.sender
      setting.plain).mp ((rows_forall blind).mp takes.valid _ (List.mem_map_of_mem listed))
    refine ⟨takes.row.textChannel, takes.row.content, takes.row.preview,
      fun input listed => (valid input listed).1, fun input listed => (valid input listed).2.1,
      fun input listed => (valid input listed).2.2, ?_, ?_⟩
    · have keys := (rows_distinct_iff drawn).mp takes.apart
      rwa [List.map_map] at keys
    · intro input listed old stored same
      have key : textParam input.storageKey ∈ (attachmentRows draws id user 0
          (cmd.attachments.map toAttachment)).map fun row => row.storageKey := by
        rw [rows_keys, List.map_map]
        exact List.mem_map_of_mem listed
      obtain ⟨row, found, is⟩ := List.mem_map.mp key
      exact (takes.unstored old stored row found).2 (same.trans is.symm)
  · intro fits
    refine ⟨⟨fits.textChannel, setting.sender, fits.content, ?_, setting.newId, ?_, fits.preview⟩,
      ?_, ?_, ?_, ?_⟩
    · exact r.one_le_seq _
    · exact fun old stored same => (r.consistent.lt_messageRow stored same).ne
    · intro attachment listed
      obtain ⟨input, given, rfl⟩ := List.mem_map.mp listed
      exact ⟨(acceptable input given).named.2.2.1, (acceptable input given).named.2.1⟩
    · refine (rows_forall blind).mpr fun attachment listed => ?_
      obtain ⟨input, given, rfl⟩ := List.mem_map.mp listed
      exact (valid_row_iff (acceptable input given) setting.sender setting.plain).mpr
        ⟨fits.bucket input given, fits.displayName input given, fits.mimeType input given⟩
    · refine (rows_distinct_iff drawn).mpr ?_
      rw [List.map_map]
      exact fits.keys
    · intro old stored row listed
      constructor
      · have drawnId : row.id ∈ (attachmentRows draws id user 0
            (cmd.attachments.map toAttachment)).map fun row => row.id :=
          List.mem_map_of_mem listed
        rw [attachmentRows_ids, List.length_map] at drawnId
        obtain ⟨i, below, is⟩ := List.mem_map.mp drawnId
        rw [← is, Nat.zero_add]
        exact setting.undrawn i (List.mem_range.mp below) old stored
      · have key : row.storageKey ∈ (attachmentRows draws id user 0
            (cmd.attachments.map toAttachment)).map fun row => row.storageKey :=
          List.mem_map_of_mem listed
        rw [rows_keys, List.map_map] at key
        obtain ⟨input, given, is⟩ := List.mem_map.mp key
        rw [← is]
        exact fits.unstored input given old stored

namespace Chat

/-- One channel, of the given type; every profile is active. -/
def directory (type : ChannelType) : Directory where
  channelType channel := if channel = ⟨"c"⟩ then some type else none
  deleted _ := some false

/-- The second attachment's id sorts before the first's. -/
def lots : Draws where
  messageId := ⟨"m"⟩
  attachmentId i := if i = 0 then "b" else "a"
  drawn i := by split <;> decide
  now := 5

def greeting : SendMessage where
  hubId := ⟨"h"⟩
  channelId := ⟨"c"⟩
  content := "hi"

def picture (name : String) : ProtoAttachment where
  id := name
  kind := .image
  storageKey := "h/c/u/" ++ name
  mimeType := "image/png"
  displayName := name
  sizeBytes := 9
  storageBucket := "chat"

def album : SendMessage := { greeting with attachments := [picture "x.png", picture "y.png"] }

/-- Greeting a voice channel passes every check. -/
theorem voice_greeting_unstorable :
    greeting.check ⟨"u"⟩ = .ok ([], none) ∧
    Setting (directory .voice) lots .empty greeting ⟨"u"⟩ ⟨"m"⟩ ∧
    (MessageTables.storeMessage (directory .voice) lots MessageRepository.empty.tables
      (greeting.message ⟨"u"⟩ ⟨"m"⟩ [] none)).isSome = false :=
  ⟨by decide, ⟨by decide, by decide, by decide, by decide, by decide⟩, by decide⟩

theorem accepted_storable_album :
    (MessageTables.storeMessage (directory .chat) lots MessageRepository.empty.tables
      (album.message ⟨"u"⟩ ⟨"m"⟩ (album.attachments.map toAttachment) none)).isSome := by
  have accepted : album.check ⟨"u"⟩ = .ok (album.attachments.map toAttachment, none) := by decide
  exact (accepted_storable_iff accepted
    ⟨by decide, by decide, by decide, by decide, by decide⟩).mpr
    ⟨by decide, by decide, by decide, by decide, by decide, by decide, by decide, by decide⟩

end Chat

end SendMessage

/-! ## The live message and the stored one -/

/-- Whether an `AsyncMessageWriter` is running. -/
inductive WriteMode where
  | synchronous
  | asynchronous
deriving DecidableEq, Repr

-- `MessageService::sendMessage`: the message it returns, and the repository with
-- the message in it.  An asynchronous message is returned when it is queued, and
-- inserted when the writer comes to it.
def MessageService.sendMessage (mode : WriteMode) (dir : Directory) (draws : Draws)
    (r : MessageRepository) (id : MessageId) (now : Nat) (channelId : ChannelId)
    (senderId : UserId) (content : String) (attachments : List MessageAttachment)
    (linkPreview : Option MessageLinkPreview) : Option (Message × MessageRepository) :=
  match mode with
  | .synchronous => r.sendMessage dir draws channelId senderId content attachments linkPreview
  | .asynchronous =>
    let msg : Message :=
      { id, chId := channelId, senderId, text := content, attachments, linkPreview,
        createdAtUnixUs := now }
    (r.insertMessage dir draws msg).map fun stored => (msg, stored)

/-- Two messages agree in all a client shows of them but the time. -/
@[mk_iff] structure Message.Agrees (live stored : Message) : Prop where
  id : live.id = stored.id
  senderId : live.senderId = stored.senderId
  text : live.text = stored.text
  messageSeq : live.messageSeq = stored.messageSeq
  linkPreview : live.linkPreview = stored.linkPreview
  attachments : live.attachments = stored.attachments

instance (live stored : Message) : Decidable (live.Agrees stored) :=
  decidable_of_iff' _ (Message.agrees_iff live stored)

section Live

variable {dir : Directory} {draws : Draws} {r r' : MessageRepository} {row : MessageRow}
  {rows : List AttachmentRow} {message : MessageId} {uploader : UserId}
  {attachments : List MessageAttachment}

/-- A fetch finds a stored message with its attachments in the query's order. -/
theorem fetched_eq (holds : MessageRepository.Holds row rows r)
    (listed : fetched ∈ r.fetchMessages channel limit) (same : fetched.id = row.id) :
    fetched = rowToMessage row (rows.insertionSort AttachmentRow.Before) := by
  rw [MessageRepository.fetchMessages_eq] at listed
  obtain ⟨found, among, rfl⟩ := List.mem_map.mp listed
  have stored := (List.mem_filter.mp (List.mem_reverse.mp (List.mem_of_mem_take among))).1
  obtain rfl : found = row := r.consistent.same_id stored holds.stored same
  rw [MessageRepository.message, MessageRepository.attachmentsOf, holds.attached]

/-- Stored attachments have ids and keys, so none is skipped when they are read. -/
theorem fromJsonAttachments_eq (valid : ∀ row ∈ rows, row.Valid dir)
    (drawn : ∀ row ∈ rows, row.id ≠ "") :
    fromJsonAttachments rows = rows.map AttachmentRow.toAttachment := by
  refine List.filter_eq_self.mpr fun attachment listed => ?_
  obtain ⟨row, stored, rfl⟩ := List.mem_map.mp listed
  refine decide_eq_true ⟨drawn row stored, fun empty => ?_⟩
  have inked := (btrim_length_pos _).mp (valid row stored).key.1
  obtain ⟨c, within, _⟩ := inked
  have key : row.storageKey = "" := empty
  rw [key] at within
  nomatch within

/-- Rows of one transaction are ordered by their ids. -/
theorem before_iff_ids (together : ∀ row ∈ rows, row.createdAt = now) :
    rows.Pairwise AttachmentRow.Before ↔ (rows.map fun row => row.id).Pairwise (· ≤ ·) := by
  rw [List.pairwise_map]
  refine List.Pairwise.iff_of_mem fun {a b} first second => ?_
  unfold AttachmentRow.Before
  rw [together a first, together b second]
  simp

/-- The query leaves the attachments of one insert in place exactly if their ids ascend. -/
theorem sorted_attachments_iff :
    (attachmentRows draws message uploader 0 attachments).map AttachmentRow.toAttachment =
      ((attachmentRows draws message uploader 0 attachments).insertionSort
        AttachmentRow.Before).map AttachmentRow.toAttachment ↔
      ((List.range attachments.length).map draws.attachmentId).Pairwise (· ≤ ·) := by
  have ids := @attachmentRows_ids draws message uploader 0 attachments
  simp only [Nat.zero_add] at ids
  rw [← ids]
  constructor
  · intro same
    have order := congrArg (List.map fun attachment => attachment.id) same
    rw [List.map_map, List.map_map] at order
    have sorted := (before_iff_ids fun row listed =>
      (attachmentRows_shared ((List.mem_insertionSort _).mp listed)).2).mp
        (List.pairwise_insertionSort AttachmentRow.Before
          (attachmentRows draws message uploader 0 attachments))
    exact (congrArg (List.Pairwise (· ≤ ·)) order).mpr sorted
  · intro ascending
    rw [((before_iff_ids fun row listed => (attachmentRows_shared listed).2).mpr
      ascending).insertionSort_eq]

variable {mode : WriteMode} {id : MessageId} {now : Nat} {channelId : ChannelId}
  {senderId : UserId} {content : String} {linkPreview : Option MessageLinkPreview}
  {live fetched : Message}

/-- What a send leaves in the tables, and what it returns. -/
theorem sendMessage_holds (sent : MessageService.sendMessage mode dir draws r id now channelId
    senderId content attachments linkPreview = some (live, r')) :
    ∃ row rows, MessageRepository.Holds row rows r' ∧ row.id = live.id ∧ 1 ≤ row.messageSeq ∧
      (∀ a ∈ rows, a.Valid dir) ∧ rows = attachmentRows draws live.id senderId 0 attachments ∧
      (mode = .synchronous → live = { rowToMessage row [] with
        attachments := rows.map AttachmentRow.toAttachment }) ∧
      (mode = .asynchronous → live.messageSeq = 0) := by
  cases mode with
  | synchronous =>
    obtain ⟨takes, rfl, is⟩ := (MessageRepository.sendMessage_eq_some rfl).mp sent
    exact ⟨_, _, MessageRepository.holds_withMessage takes is, rfl, takes.row.seq, takes.valid, rfl,
      fun _ => rfl, nofun⟩
  | asynchronous =>
    obtain ⟨stored, done, pair⟩ := Option.map_eq_some_iff.mp sent
    obtain ⟨rfl, rfl⟩ := Prod.mk.inj pair
    obtain ⟨takes, is⟩ := MessageRepository.insertMessage_eq_some.mp done
    exact ⟨_, _, MessageRepository.holds_withMessage takes is, rfl, takes.row.seq, takes.valid, rfl,
      nofun, fun _ => rfl⟩

/-- **When the live message is the stored one.**  However many messages come after it, the
message a fetch returns under its id agrees with the one that was broadcast exactly if
it was written synchronously and the ids drawn for its attachments ascend. -/
theorem live_is_stored_iff (sent : MessageService.sendMessage mode dir draws r id now channelId
      senderId content attachments linkPreview = some (live, r'))
    (later : List MessageRepository.Insert) {limit : Nat}
    (listed : fetched ∈ (run MessageRepository.insert r' later).fetchMessages channelId limit)
    (same : fetched.id = live.id) :
    live.Agrees fetched ↔ mode = .synchronous ∧
      ((List.range attachments.length).map draws.attachmentId).Pairwise (· ≤ ·) := by
  obtain ⟨row, rows, holds, idIs, positive, valid, rowsAre, sync, async⟩ := sendMessage_holds sent
  have stays := MessageRepository.message_stays holds later
  obtain rfl := fetched_eq stays listed (same.trans idIs.symm)
  have read : fromJsonAttachments (rows.insertionSort AttachmentRow.Before) =
      (rows.insertionSort AttachmentRow.Before).map AttachmentRow.toAttachment := by
    refine fromJsonAttachments_eq (fun a among => valid a ((List.mem_insertionSort _).mp among)) ?_
    intro a among
    have drawn := List.mem_map_of_mem (f := fun row => row.id) ((List.mem_insertionSort _).mp among)
    rw [rowsAre, attachmentRows_ids] at drawn
    obtain ⟨k, _, is⟩ := List.mem_map.mp drawn
    exact is ▸ draws.drawn _
  cases mode with
  | synchronous =>
    have shape := sync rfl
    rw [← @sorted_attachments_iff draws live.id senderId, ← rowsAre, ← read]
    constructor
    · intro agrees
      refine ⟨rfl, ?_⟩
      have attached := agrees.attachments
      rw [shape] at attached
      exact attached
    · rintro ⟨_, attached⟩
      rw [shape]
      exact ⟨rfl, rfl, rfl, rfl, rfl, attached⟩
  | asynchronous =>
    refine ⟨fun agrees => ?_, fun split => absurd split.1 (by simp)⟩
    have seq := agrees.messageSeq
    rw [async rfl] at seq
    exact absurd seq (by simp only [rowToMessage]; omega)

end Live

namespace SendMessage.Chat

/-- An accepted command, sent in a mode to an empty text channel. -/
def deliver (draws : Draws) (mode : WriteMode) (cmd : SendMessage) :
    Option (Message × MessageRepository) :=
  MessageService.sendMessage mode (directory .chat) draws .empty ⟨"m"⟩ 3 cmd.channelId ⟨"u"⟩
    cmd.content (cmd.attachments.map toAttachment) cmd.linkPreview

/-- The command is delivered, and a fetch then returns another message under its id. -/
def Diverges (mode : WriteMode) (cmd : SendMessage) : Prop :=
  ∃ sent ∈ deliver lots mode cmd, ∃ fetched ∈ sent.2.fetchMessages cmd.channelId 10,
    fetched.id = sent.1.id ∧ ¬ sent.1.Agrees fetched
deriving Decidable

/-- A queued greeting is broadcast without the number it gets, and two pictures written at
once come back in another order. -/
theorem live_greeting_unnumbered : greeting.check ⟨"u"⟩ = .ok ([], none) ∧
    album.check ⟨"u"⟩ = .ok (album.attachments.map toAttachment, none) ∧
    Diverges .asynchronous greeting ∧ Diverges .synchronous album := by
  decide

/-- The ids of the attachments ascend. -/
def ascending : Draws where
  messageId := ⟨"m"⟩
  attachmentId i := if i = 0 then "a" else "b"
  drawn i := by split <;> decide

/-- The two pictures, delivered synchronously. -/
def delivered : Message × MessageRepository :=
  (deliver ascending .synchronous album).getD ({}, .empty)

theorem live_album_stored :
    ∃ fetched ∈ delivered.2.fetchMessages ⟨"c"⟩ 10, delivered.1.Agrees fetched := by
  have sent : deliver ascending .synchronous album = some delivered := rfl
  obtain ⟨fetched, listed, same⟩ :
      ∃ fetched ∈ delivered.2.fetchMessages ⟨"c"⟩ 10, fetched.id = delivered.1.id := by decide
  exact ⟨fetched, listed, (live_is_stored_iff sent [] listed same).mpr ⟨rfl, by decide⟩⟩

end SendMessage.Chat

end Kergit
