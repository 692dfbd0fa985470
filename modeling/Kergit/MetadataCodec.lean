import Mathlib.Data.List.Sort
import Mathlib.Data.List.TakeWhile
import Kergit.Handlers

/-!
The participant metadata: written into the join token by `mint_participant_token`, handed back by
LiveKit, and read in two places.  `VoiceService` reads it when it lists a room, the webhook server
when a body comes in, each with fallbacks of its own.  `serialise` and `parse` are the JSON
libraries; `parse` answers nothing for a text that is no object.
-/

namespace Kergit

open Lib

/-- A member of a JSON object, as far as the readers look at one. -/
inductive Json where
  | string (text : String)
  | unsigned (number : Nat)
  | boolean (value : Bool)
  | other
deriving DecidableEq, Repr

abbrev Document := Map String Json

/-- A field that is a string; anything else leaves the default. -/
def Document.text (doc : Document) (field : String) : String :=
  match doc.lookup field with
  | some (.string text) => text
  | _ => ""

/-- A field that is a boolean; anything else leaves the default. -/
def Document.flag (doc : Document) (field : String) : Bool :=
  match doc.lookup field with
  | some (.boolean value) => value
  | _ => false

/-- The digits that a text starts with, if there are any and they fit. -/
def leadingNumber (text : List Char) : Option Nat :=
  let digits := text.takeWhile Char.isDigit
  let number := Nat.ofDigitChars 10 digits 0
  if digits = [] ∨ 2 ^ 64 ≤ number then none else some number

-- `std::stoull`; `none` is its exception.
def stoull (text : String) : Option Nat :=
  match text.toList.dropWhile Handlers.isSpace with
  | '-' :: rest => (leadingNumber rest).map fun number => (2 ^ 64 - number) % 2 ^ 64
  | '+' :: rest => leadingNumber rest
  | rest => leadingNumber rest

section Readers

variable (parse : String → Option Document)

def parseParticipantMetadata (raw : String) : ParticipantMetadata :=
  if raw = "" then {}
  else
    match parse raw with
    | some doc => {
        nodeId := doc.text "node_id"
        appSessionId :=
          match doc.lookup "app_session_id" with
          | some (.unsigned number) => number
          | some (.string text) => (stoull text).getD 0
          | _ => 0
        intentNonce := doc.text "intent_nonce" }
    | none => { nodeId := raw }

-- `LivekitWebhookServer::handle_body`, where the participant has a metadata string.
def LiveKitEvent.withMetadata (event : LiveKitEvent) (raw : String) : LiveKitEvent :=
  match parse raw with
  | some doc =>
    let event :=
      match doc.lookup "node_id" with
      | some (.string nodeId) => { event with nodeId }
      | _ => event
    let event :=
      match doc.lookup "app_session_id" with
      | some (.unsigned number) => { event with appSessionId := number }
      | some (.string text) =>
        match stoull text with
        | some number => { event with appSessionId := number }
        | none => { event with appSessionId := 0 }
      | _ => event
    match doc.lookup "intent_nonce" with
    | some (.string intentNonce) => { event with intentNonce }
    | _ => event
  | none => { event with nodeId := raw }

end Readers

/-- The event with the three values of a participant's metadata. -/
def LiveKitEvent.labelled (event : LiveKitEvent) (metadata : ParticipantMetadata) : LiveKitEvent :=
  { event with
    nodeId := metadata.nodeId
    appSessionId := metadata.appSessionId
    intentNonce := metadata.intentNonce }

-- the metadata of `LiveKitTokenService::mint_participant_token`; `picojson::object` is
-- ordered by its keys.
def mintedMetadata (nodeId : String) (appSessionId : UInt64) (intentNonce : String) : Document :=
  Map.gather [("app_session_id", .string (toString appSessionId.toNat)),
    ("intent_nonce", .string intentNonce), ("node_id", .string nodeId)]

/-- What `std::to_string` writes, `std::stoull` reads. -/
theorem stoull_toString (fits : n < 2 ^ 64) : stoull (toString n) = some n := by
  have digit : ∀ c ∈ Nat.toDigits 10 n, c.isDigit = true := fun c listed =>
    Nat.isDigit_of_mem_toDigits (by decide) (by decide) listed
  have all : (Nat.toDigits 10 n).takeWhile Char.isDigit = Nat.toDigits 10 n :=
    List.takeWhile_eq_self_iff.mpr digit
  have number : leadingNumber (Nat.toDigits 10 n) = some n := by
    rw [leadingNumber, all, Nat.ofDigitChars_ten_toDigits, if_neg]
    exact not_or.mpr ⟨Nat.toDigits_ne_nil, Nat.not_le.mpr fits⟩
  rw [stoull, Nat.toString_eq_ofList_toDigits, String.toList_ofList]
  obtain ⟨first, rest, digits⟩ := List.exists_cons_of_ne_nil (@Nat.toDigits_ne_nil n 10)
  rw [digits] at digit number ⊢
  have shows := digit first List.mem_cons_self
  have stays : (first :: rest).dropWhile Handlers.isSpace = first :: rest := by
    rw [List.dropWhile_cons_of_neg]
    intro space
    simp [Char.isDigit] at shows
    have above : 48 ≤ first.toNat := shows.1
    simp [Handlers.isSpace] at space
    rcases space with rfl | ⟨-, below⟩
    · exact absurd above (by decide)
    · omega
  rw [stays]
  split
  case h_3 => exact number
  all_goals
    rename_i same
    rw [(List.cons.inj same).1] at shows
    exact absurd shows (by decide)

/-- **Participant metadata agreement.**  The two readers take the same from every string, and both
take from the metadata of a token what was written into it. -/
theorem metadata_agrees {parse : String → Option Document}
    {serialise : Document → String}
    (blank : parse "" = none) (type : LiveKitEventType) (eventId rawEventName : String)
    (channelId : ChannelId) (userId : UserId) (nodeId : String) (appSessionId : UInt64)
    (intentNonce : String)
    (correct : parse (serialise (mintedMetadata nodeId appSessionId intentNonce)) =
      some (mintedMetadata nodeId appSessionId intentNonce)) :
    let event : LiveKitEvent := { type, eventId, rawEventName, channelId, userId }
    let text := serialise (mintedMetadata nodeId appSessionId intentNonce)
    let written : ParticipantMetadata := { nodeId, appSessionId := appSessionId.toNat, intentNonce }
    (∀ raw, event.withMetadata parse raw = event.labelled (parseParticipantMetadata parse raw)) ∧
      parseParticipantMetadata parse text = written ∧
      event.withMetadata parse text = event.labelled written := by
  intro event text written
  have agree : ∀ raw, event.withMetadata parse raw =
      event.labelled (parseParticipantMetadata parse raw) := by
    intro raw
    by_cases empty : raw = ""
    · simp [LiveKitEvent.withMetadata, parseParticipantMetadata, LiveKitEvent.labelled, empty, blank,
        event]
    · simp only [LiveKitEvent.withMetadata, parseParticipantMetadata, if_neg empty]
      split
      · grind [LiveKitEvent.labelled, Document.text]
      · rfl
  have recovered : parseParticipantMetadata parse text = written := by
    have full : text ≠ "" := fun empty => by
      rw [show serialise _ = "" from empty, blank] at correct
      nomatch correct
    have read : stoull appSessionId.toNat.repr = some appSessionId.toNat :=
      stoull_toString appSessionId.toNat_lt
    rw [parseParticipantMetadata, if_neg full, correct]
    simp [mintedMetadata, Map.gather, Document.text, read, written, -AList.insert_empty]
  refine ⟨agree, recovered, ?_⟩
  rw [agree, recovered]

/-! ## The text in a token -/

namespace PlainText

/-- A string with nothing to escape. -/
def quoted (text : String) : String := "\"" ++ text ++ "\""

def memberText : String × Json → String
  | (key, .string text) => quoted key ++ ":" ++ quoted text
  | (key, .unsigned number) => quoted key ++ ":" ++ toString number
  | (key, .boolean value) => quoted key ++ ":" ++ toString value
  | (key, .other) => quoted key ++ ":null"

-- `picojson::value::serialize`.
def serialise (doc : Document) : String :=
  let members := (doc.entries.map fun entry => (entry.1, entry.2)).insertionSort fun a b => a.1 ≤ b.1
  "\x7b" ++ ",".intercalate (members.map memberText) ++ "\x7d"

/-- The members of an object of strings, from the pieces between the quotes. -/
def readMembers (doc : Document) : List (List Char) → Option Document
  | [key, [':'], text, ['}']] => some (doc.insert (.ofList key) (.string (.ofList text)))
  | key :: [':'] :: text :: [','] :: rest =>
    readMembers (doc.insert (.ofList key) (.string (.ofList text))) rest
  | _ => none

/-- Reads the objects of strings with nothing to escape. -/
def parse (raw : String) : Option Document :=
  match raw.toList.splitOn '"' with
  | ['{'] :: rest => readMembers ∅ rest
  | _ => none

theorem metadata_agrees_seven :
    let text :=
      "\x7b\"app_session_id\":\"7\",\"intent_nonce\":\"nonce\",\"node_id\":\"node\"\x7d"
    let event : LiveKitEvent := {
      type := .participantJoined, eventId := "event", rawEventName := "participant_joined"
      channelId := ⟨"lounge"⟩, userId := ⟨"ada"⟩ }
    serialise (mintedMetadata "node" 7 "nonce") = text ∧
      parseParticipantMetadata parse text =
        { nodeId := "node", appSessionId := 7, intentNonce := "nonce" } ∧
      event.withMetadata parse text =
        { event with nodeId := "node", appSessionId := 7, intentNonce := "nonce" } := by
  intro text event
  have written : serialise (mintedMetadata "node" 7 "nonce") = text := by decide +kernel
  have agrees := (@metadata_agrees parse serialise rfl event.type event.eventId event.rawEventName
    event.channelId event.userId "node" 7 "nonce" rfl).2
  rw [written] at agrees
  exact ⟨written, agrees⟩

end PlainText

end Kergit
