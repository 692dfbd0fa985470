import Kergit.Lib.Maps
import Kergit.Ids

/-!
`app::SubscriptionManager`: which connection listens to which topic.

The class keeps the relation twice, by topic for the fan-out and by connection for
the rest, and updates both by hand.  `SubscriptionTables.Consistent` says that the
two maps hold the same relation and keep no empty entry; `SubscriptionManager` bundles
the tables with it.  Each operation then has one lemma saying what it does to the
relation `Subscribed`, and nothing downstream reads the maps.
-/

namespace Kergit

open Lib

open Map (row row_erase row_insert row_dropFrom dropFrom)

inductive TopicKind where
  | hub
  | channel
  | user
deriving DecidableEq, Repr

structure Topic where
  kind : TopicKind
  primary : String
  secondary : String := ""
deriving DecidableEq, Repr

namespace Topic

def hubTopic (hub : HubId) : Topic := { kind := .hub, primary := hub.value }

def channelTopic (hub : HubId) (channel : ChannelId) : Topic :=
  { kind := .channel, primary := hub.value, secondary := channel.value }

/-- The hub topic of the hub, or the topic of one of its channels. -/
def OfHub (hub : HubId) (topic : Topic) : Prop :=
  topic = hubTopic hub ∨ ∃ channel, topic = channelTopic hub channel

theorem ofHub_iff {topic : Topic} : topic.OfHub hub ↔ topic.primary = hub.value ∧
      (topic.kind = .hub ∧ topic.secondary = "" ∨ topic.kind = .channel) := by
  obtain ⟨kind, primary, secondary⟩ := topic
  constructor
  · rintro (same | ⟨channel, same⟩)
    · cases same
      exact ⟨rfl, .inl ⟨rfl, rfl⟩⟩
    · cases same
      exact ⟨rfl, .inr rfl⟩
  · rintro ⟨rfl, ⟨rfl, rfl⟩ | rfl⟩
    · exact .inl rfl
    · exact .inr ⟨⟨secondary⟩, rfl⟩

instance (hub : HubId) (topic : Topic) : Decidable (topic.OfHub hub) :=
  decidable_of_iff _ ofHub_iff.symm

end Topic

-- `SubscriptionManager.h`, the private members.  The order of a subscriber
-- vector is of no consequence.
structure SubscriptionTables where
  topicToConns : Map Topic (List GlobalConnId) := ∅
  connToTopics : Map GlobalConnId (List Topic) := ∅

/-- The two maps hold one relation. -/
structure SubscriptionTables.Consistent (t : SubscriptionTables) : Prop where
  same : ∀ conn topic, topic ∈ row t.connToTopics conn ↔ conn ∈ row t.topicToConns topic
  topics_nodup : ∀ conn, (row t.connToTopics conn).Nodup
  conns_nodup : ∀ topic, (row t.topicToConns topic).Nodup
  topics_kept : Map.NoEmptyLists t.connToTopics
  conns_kept : Map.NoEmptyLists t.topicToConns

namespace SubscriptionTables

variable (t : SubscriptionTables) (conn : GlobalConnId) (topic : Topic)

def subscribeConnection : Bool × SubscriptionTables :=
  let topics := row t.connToTopics conn
  if topic ∈ topics then (false, t)
  else
    (true, {
      connToTopics := t.connToTopics.insert conn (topics ++ [topic])
      topicToConns := t.topicToConns.insert topic (row t.topicToConns topic ++ [conn]) })

def unsubscribeConnection : Bool × SubscriptionTables :=
  if topic ∈ row t.connToTopics conn then
    (true, {
      connToTopics := dropFrom t.connToTopics conn topic
      topicToConns := dropFrom t.topicToConns topic conn })
  else (false, t)

def removeAllForConnection : SubscriptionTables where
  connToTopics := t.connToTopics.erase conn
  topicToConns := (row t.connToTopics conn).foldl (fun m topic => dropFrom m topic conn)
    t.topicToConns

def removeAllForTopic : SubscriptionTables where
  connToTopics := (row t.topicToConns topic).foldl (fun m conn => dropFrom m conn topic)
    t.connToTopics
  topicToConns := t.topicToConns.erase topic

variable {t conn topic}

theorem consistent_empty : Consistent {} where
  same := by simp
  topics_nodup := by simp
  conns_nodup := by simp
  topics_kept := fun k => by simp
  conns_kept := fun k => by simp

theorem mem_topics_subscribe (k : GlobalConnId) (other : Topic) :
    other ∈ row (t.subscribeConnection conn topic).2.connToTopics k ↔
      (k = conn ∧ other = topic) ∨ other ∈ row t.connToTopics k := by
  rw [subscribeConnection]
  by_cases present : topic ∈ row t.connToTopics conn
  · grind
  · rw [if_neg present, row_insert]
    by_cases same : k = conn
    · subst same
      simp [or_comm]
    · simp [same]

section

variable (ok : t.Consistent)

include ok

theorem subscribe_consistent : (t.subscribeConnection conn topic).2.Consistent := by
  rw [subscribeConnection]
  by_cases present : topic ∈ row t.connToTopics conn
  · rw [if_pos present]
    exact ok
  · rw [if_neg present]
    have absent : conn ∉ row t.topicToConns topic := fun listed =>
      present ((ok.same conn topic).mpr listed)
    constructor
    case same =>
      intro k other
      simp only [row_insert]
      by_cases here : k = conn
      · by_cases there : other = topic
        · simp [here, there]
        · simp [here, there, ok.same]
      · by_cases there : other = topic
        · simp [here, there, ok.same]
        · simp [here, there, ok.same]
    case topics_nodup =>
      intro k
      rw [row_insert]
      split
      · exact List.nodup_append_comm.mpr (List.nodup_cons.mpr ⟨present, ok.topics_nodup conn⟩)
      · exact ok.topics_nodup k
    case conns_nodup =>
      intro k
      rw [row_insert]
      split
      · exact List.nodup_append_comm.mpr (List.nodup_cons.mpr ⟨absent, ok.conns_nodup topic⟩)
      · exact ok.conns_nodup k
    case topics_kept => exact ok.topics_kept.insert (by simp)
    case conns_kept => exact ok.conns_kept.insert (by simp)

theorem mem_topics_unsubscribe (k : GlobalConnId) (other : Topic) :
    other ∈ row (t.unsubscribeConnection conn topic).2.connToTopics k ↔
      other ∈ row t.connToTopics k ∧ ¬ (k = conn ∧ other = topic) := by
  rw [unsubscribeConnection]
  by_cases present : topic ∈ row t.connToTopics conn
  · rw [if_pos present, row_dropFrom]
    split
    · rename_i same
      subst same
      rw [(ok.topics_nodup k).mem_erase_iff]
      simp [and_comm]
    · rename_i differ
      simp [differ]
  · grind

theorem unsubscribe_consistent : (t.unsubscribeConnection conn topic).2.Consistent := by
  rw [unsubscribeConnection]
  by_cases present : topic ∈ row t.connToTopics conn
  · rw [if_pos present]
    constructor
    case same =>
      intro k other
      simp only [row_dropFrom]
      by_cases here : k = conn
      · by_cases there : other = topic
        · subst here there
          simp [(ok.topics_nodup k).mem_erase_iff, (ok.conns_nodup other).mem_erase_iff]
        · simp [here, there, ok.same]
      · by_cases there : other = topic
        · simp [here, there, ok.same]
        · simp [here, there, ok.same]
    case topics_nodup =>
      intro k
      rw [row_dropFrom]
      split
      · exact (ok.topics_nodup conn).erase _
      · exact ok.topics_nodup k
    case conns_nodup =>
      intro k
      rw [row_dropFrom]
      split
      · exact (ok.conns_nodup topic).erase _
      · exact ok.conns_nodup k
    case topics_kept => exact ok.topics_kept.dropFrom _ _
    case conns_kept => exact ok.conns_kept.dropFrom _ _
  · rw [if_neg present]
    exact ok

theorem removeAllForConnection_consistent : (t.removeAllForConnection conn).Consistent where
  same := by
    intro k other
    rw [removeAllForConnection, row_erase, Map.row_foldl_dropFrom _ _ (ok.topics_nodup conn)]
    split
    · rename_i here
      subst here
      split
      · simp [(ok.conns_nodup other).mem_erase_iff]
      · rename_i absent
        simpa [ok.same] using absent
    · rename_i differ
      split
      · rw [List.mem_erase_of_ne differ, ok.same]
      · rw [ok.same]
  topics_nodup := by
    intro k
    rw [removeAllForConnection, row_erase]
    split
    · exact List.nodup_nil
    · exact ok.topics_nodup k
  conns_nodup := by
    intro k
    rw [removeAllForConnection, Map.row_foldl_dropFrom _ _ (ok.topics_nodup conn)]
    split
    · exact (ok.conns_nodup k).erase _
    · exact ok.conns_nodup k
  topics_kept := ok.topics_kept.erase conn
  conns_kept := ok.conns_kept.foldl_dropFrom _ conn

theorem mem_topics_removeAllForTopic (k : GlobalConnId) (other : Topic) :
    other ∈ row (t.removeAllForTopic topic).connToTopics k ↔
      other ∈ row t.connToTopics k ∧ other ≠ topic := by
  rw [removeAllForTopic, Map.row_foldl_dropFrom _ _ (ok.conns_nodup topic)]
  split
  · rw [(ok.topics_nodup k).mem_erase_iff]
    exact and_comm
  · rename_i absent
    constructor
    · refine fun listed => ⟨listed, ?_⟩
      rintro rfl
      exact absent ((ok.same k other).mp listed)
    · exact And.left

theorem removeAllForTopic_consistent : (t.removeAllForTopic topic).Consistent where
  same := by
    intro k other
    rw [mem_topics_removeAllForTopic ok, removeAllForTopic, row_erase]
    split
    · rename_i here
      simp [here]
    · rename_i differ
      simp [differ, ok.same]
  topics_nodup := by
    intro k
    rw [removeAllForTopic, Map.row_foldl_dropFrom _ _ (ok.conns_nodup topic)]
    split
    · exact (ok.topics_nodup k).erase _
    · exact ok.topics_nodup k
  conns_nodup := by
    intro k
    rw [removeAllForTopic, row_erase]
    split
    · exact List.nodup_nil
    · exact ok.conns_nodup k
  topics_kept := ok.topics_kept.foldl_dropFrom _ topic
  conns_kept := ok.conns_kept.erase topic

end

end SubscriptionTables

/-- The manager: tables, with the proof that they hold one relation. -/
structure SubscriptionManager where
  tables : SubscriptionTables
  consistent : tables.Consistent

namespace SubscriptionManager

def empty : SubscriptionManager := ⟨{}, SubscriptionTables.consistent_empty⟩

variable (m : SubscriptionManager) (conn : GlobalConnId) (topic : Topic)

def subscribeConnection : Bool × SubscriptionManager :=
  ((m.tables.subscribeConnection conn topic).1,
    ⟨(m.tables.subscribeConnection conn topic).2,
      SubscriptionTables.subscribe_consistent m.consistent⟩)

def unsubscribeConnection : Bool × SubscriptionManager :=
  ((m.tables.unsubscribeConnection conn topic).1,
    ⟨(m.tables.unsubscribeConnection conn topic).2,
      SubscriptionTables.unsubscribe_consistent m.consistent⟩)

def removeAllForConnection : SubscriptionManager :=
  ⟨m.tables.removeAllForConnection conn,
    SubscriptionTables.removeAllForConnection_consistent m.consistent⟩

def removeAllForTopic : SubscriptionManager :=
  ⟨m.tables.removeAllForTopic topic, SubscriptionTables.removeAllForTopic_consistent m.consistent⟩

-- `SubscriptionManager::getSubscribers`; no subscriber and no entry are one.
def getSubscribers : List GlobalConnId := row m.tables.topicToConns topic

def getSubscriptionsForConnection : Except String (List Topic) :=
  match m.tables.connToTopics.lookup conn with
  | some topics => .ok topics
  | none => .error "Connection not found"

def Subscribed : Prop := topic ∈ row m.tables.connToTopics conn
deriving Decidable

/-- The connection occurs in one of the two maps. -/
def Mentions : Prop :=
  conn ∈ m.tables.connToTopics ∨ ∃ topic, conn ∈ row m.tables.topicToConns topic

variable {m conn topic} {k : GlobalConnId} {other : Topic}

theorem mentions_iff : m.Mentions conn ↔ ∃ topic, m.Subscribed conn topic := by
  rw [Mentions, Map.mem_iff_row _ m.consistent.topics_kept]
  simp only [← m.consistent.same]
  exact or_self_iff

@[simp] theorem not_subscribed_empty : ¬ empty.Subscribed conn topic := by
  simp [Subscribed, empty]

@[simp] theorem subscribed_subscribe : (m.subscribeConnection conn topic).2.Subscribed k other ↔
    (k = conn ∧ other = topic) ∨ m.Subscribed k other :=
  SubscriptionTables.mem_topics_subscribe k other

@[simp] theorem subscribed_unsubscribe :
    (m.unsubscribeConnection conn topic).2.Subscribed k other ↔
      m.Subscribed k other ∧ ¬ (k = conn ∧ other = topic) :=
  SubscriptionTables.mem_topics_unsubscribe m.consistent k other

@[simp] theorem subscribed_removeAllForConnection :
    (m.removeAllForConnection conn).Subscribed k other ↔ m.Subscribed k other ∧ k ≠ conn := by
  change other ∈ row (m.tables.connToTopics.erase conn) k ↔ _
  rw [row_erase]
  split
  · rename_i here
    simp [here]
  · rename_i differ
    simp [differ, Subscribed]

@[simp] theorem subscribed_removeAllForTopic :
    (m.removeAllForTopic topic).Subscribed k other ↔ m.Subscribed k other ∧ other ≠ topic :=
  SubscriptionTables.mem_topics_removeAllForTopic m.consistent k other

end SubscriptionManager

end Kergit
