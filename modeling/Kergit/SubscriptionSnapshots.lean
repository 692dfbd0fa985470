import Kergit.Lib.CopyOnWrite
import Kergit.Lib.Staged
import Kergit.SubscriptionManager

/-!
`SubscriptionManager` with its shared subscriber vectors.

`SubscriptionTables` has a list per topic, and its order and its sharing are of no
consequence there.  The class keeps a `shared_ptr` to a vector, which `getSubscribers`
hands to the fan-out; writers copy the vector when its use count says that a reader holds
it, and erase by swapping with the last element.  `SharedSubscriptions` is that class: the
vectors are cells of a `CopyOnWrite.Table`, and readers keep their references until they
let them go.

`Refines` relates it to the tables: the same topics for each connection, and for each topic
the same subscribers in some order.  Every call keeps it and answers as the tables do
(`*_refines`), so the consistency of the tables is the consistency of the vectors.  That no
vector changes under a reader is the soundness of the copy-on-write table.
-/

namespace Kergit

open Lib

open CopyOnWrite (Table)

open Map (row row_erase row_insert row_dropFrom dropFrom)

-- `SubscriptionManager.h`, the private members, with the readers' references.
structure SharedSubscriptions where
  topicToConns : Table Topic (List GlobalConnId) := .empty
  connToTopics : Map GlobalConnId (List Topic) := ∅

namespace SharedSubscriptions

-- `eraseConnFromTopic`, and the erase of an emptied entry that follows every call.
def eraseConnFromTopic (conns : Table Topic (List GlobalConnId)) (topic : Topic)
    (conn : GlobalConnId) : Table Topic (List GlobalConnId) :=
  let conns := conns.update topic (swapErase · conn)
  if conns.get topic = some [] then conns.remove topic else conns

section Operations

variable (s : SharedSubscriptions) (conn : GlobalConnId) (topic : Topic)

def subscribeConnection : Bool × SharedSubscriptions :=
  let topics := row s.connToTopics conn
  if topic ∈ topics then (false, s)
  else
    (true, {
      connToTopics := s.connToTopics.insert conn (topics ++ [topic])
      topicToConns :=
        match s.topicToConns.get topic with
        | none => (s.topicToConns.create topic []).update topic (· ++ [conn])
        | some _ => s.topicToConns.update topic (· ++ [conn]) })

def unsubscribeConnection : Bool × SharedSubscriptions :=
  if topic ∈ row s.connToTopics conn then
    (true, {
      connToTopics := dropFrom s.connToTopics conn topic
      topicToConns := eraseConnFromTopic s.topicToConns topic conn })
  else (false, s)

def removeAllForConnection : SharedSubscriptions :=
  match s.connToTopics.lookup conn with
  | none => s
  | some topics =>
    { connToTopics := s.connToTopics.erase conn
      topicToConns := topics.foldl (eraseConnFromTopic · · conn) s.topicToConns }

def removeAllForTopic : SharedSubscriptions :=
  match s.topicToConns.get topic with
  | none => s
  | some conns =>
    { connToTopics := conns.foldl (fun m conn => dropFrom m conn topic) s.connToTopics
      topicToConns := s.topicToConns.remove topic }

-- `SubscriptionManager::getSubscribers`; the answer is the newest reader.
def getSubscribers : SharedSubscriptions :=
  { s with topicToConns := s.topicToConns.hold topic }

/-- A reader's `shared_ptr` goes out of scope. -/
def letGo (place : Nat) : SharedSubscriptions :=
  { s with topicToConns := s.topicToConns.letGo place }

/-- The subscriber vector of a topic; no entry reads as no subscriber. -/
def subscribers : List GlobalConnId := (s.topicToConns.get topic).getD []

/-- The relation, as `isSubscribed` reads it. -/
def Subscribed : Prop := topic ∈ row s.connToTopics conn

end Operations

/-! ## Vectors against lists -/

/-- The vectors hold the lists, each in an order of its own. -/
structure Shares (conns : Table Topic (List GlobalConnId)) (m : Map Topic (List GlobalConnId)) :
    Prop where
  sound : conns.Sound
  perm : ∀ topic, ((conns.get topic).getD []).Perm (row m topic)
  kept : ∀ topic, conns.get topic ≠ some []

variable {conns : Table Topic (List GlobalConnId)} {m : Map Topic (List GlobalConnId)}
  {conn : GlobalConnId} {topic : Topic}

theorem shares_empty : Shares .empty ∅ where
  sound := Table.sound_empty
  perm _ := .refl _
  kept _ := by simp [Table.empty, Table.get]

section

variable (shares : Shares conns m)

include shares

/-- What changes the vector of one topic, and its list with it. -/
theorem Shares.changed {v : Option (List GlobalConnId)} (sound : conns'.Sound)
    (gets : ∀ other, conns'.get other = if other = topic then v else conns.get other)
    (rows : ∀ other, row m' other = if other = topic then listed else row m other)
    (perm : (v.getD []).Perm listed) (kept : v ≠ some []) : Shares conns' m' where
  sound := sound
  perm other := by
    rw [gets, rows]
    by_cases here : other = topic
    · rw [if_pos here, if_pos here]
      exact perm
    · rw [if_neg here, if_neg here]
      exact shares.perm other
  kept other := by
    rw [gets]
    split
    · exact kept
    · exact shares.kept other

theorem Shares.push (conn : GlobalConnId) (topic : Topic) :
    Shares
      (match conns.get topic with
        | none => (conns.create topic []).update topic (· ++ [conn])
        | some _ => conns.update topic (· ++ [conn]))
      (m.insert topic (row m topic ++ [conn])) := by
  have perm := (shares.perm topic).append_right [conn]
  cases found : conns.get topic with
  | none =>
    rw [found] at perm
    obtain ⟨made, makes⟩ := shares.sound.create found []
    obtain ⟨sound, gets⟩ := made.update topic (· ++ [conn])
    refine shares.changed (v := some [conn]) sound ?_ (row_insert _ _ · _) perm nofun
    intro other
    rw [gets, makes, makes, if_pos rfl]
    split <;> rfl
  | some vec =>
    rw [found] at perm
    obtain ⟨sound, gets⟩ := shares.sound.update topic (· ++ [conn])
    rw [found] at gets
    exact shares.changed sound gets (row_insert _ _ · _) perm (by simp)

theorem Shares.drop (topic : Topic) (conn : GlobalConnId) :
    Shares (eraseConnFromTopic conns topic conn) (dropFrom m topic conn) := by
  obtain ⟨sound, gets⟩ := shares.sound.update topic (swapErase · conn)
  have perm : (((conns.get topic).map (swapErase · conn)).getD []).Perm
      ((row m topic).erase conn) := by
    refine .trans ?_ ((shares.perm topic).erase conn)
    cases conns.get topic with
    | none => exact .refl _
    | some vec => exact swapErase_perm vec conn
  unfold eraseConnFromTopic
  dsimp only
  rw [gets, if_pos rfl]
  split
  · rename_i emptied
    obtain ⟨sound', gone⟩ := sound.remove topic
    rw [emptied] at perm
    refine shares.changed (v := none) sound' (fun other => ?_) (row_dropFrom _ _ · _) perm nofun
    by_cases here : other = topic <;> simp [gone, gets, here]
  · rename_i occupied
    exact shares.changed sound gets (row_dropFrom _ _ · _) perm occupied

theorem Shares.remove (topic : Topic) : Shares (conns.remove topic) (m.erase topic) := by
  obtain ⟨sound, gone⟩ := shares.sound.remove topic
  exact shares.changed sound gone (row_erase _ _) (.refl _) nofun

/-- What leaves the vectors as they are. -/
theorem Shares.read (sound : conns'.Sound) (same : ∀ topic, conns'.get topic = conns.get topic) :
    Shares conns' m where
  sound := sound
  perm topic := by
    rw [same]
    exact shares.perm topic
  kept topic := by
    rw [same]
    exact shares.kept topic

theorem Shares.drop_all (topics : List Topic) (conn : GlobalConnId) :
    Shares (topics.foldl (eraseConnFromTopic · · conn) conns)
      (topics.foldl (fun m topic => dropFrom m topic conn) m) := by
  induction topics generalizing conns m with
  | nil => exact shares
  | cons topic rest ih => exact ih (shares.drop topic conn)

end

/-! ## The class against the tables -/

/-- The class holds the tables. -/
structure Refines (s : SharedSubscriptions) (t : SubscriptionTables) : Prop where
  shares : Shares s.topicToConns t.topicToConns
  topics : ∀ conn, row s.connToTopics conn = row t.connToTopics conn
  kept : Map.NoEmptyLists s.connToTopics

variable {s : SharedSubscriptions} {t : SubscriptionTables}

theorem refines_empty : Refines {} {} where
  shares := shares_empty
  topics _ := rfl
  kept _ := by simp

section

variable (refines : Refines s t)

include refines

theorem subscribe_refines (conn : GlobalConnId) (topic : Topic) :
    (s.subscribeConnection conn topic).1 = (t.subscribeConnection conn topic).1 ∧
      Refines (s.subscribeConnection conn topic).2 (t.subscribeConnection conn topic).2 := by
  unfold subscribeConnection SubscriptionTables.subscribeConnection
  rw [refines.topics]
  by_cases present : topic ∈ row t.connToTopics conn
  · rw [if_pos present, if_pos present]
    exact ⟨rfl, refines⟩
  · rw [if_neg present, if_neg present]
    refine ⟨rfl, refines.shares.push conn topic, fun k => ?_, refines.kept.insert (by simp)⟩
    rw [row_insert, row_insert, refines.topics]

theorem unsubscribe_refines (conn : GlobalConnId) (topic : Topic) :
    (s.unsubscribeConnection conn topic).1 = (t.unsubscribeConnection conn topic).1 ∧
      Refines (s.unsubscribeConnection conn topic).2 (t.unsubscribeConnection conn topic).2 := by
  unfold unsubscribeConnection SubscriptionTables.unsubscribeConnection
  rw [refines.topics]
  by_cases present : topic ∈ row t.connToTopics conn
  · rw [if_pos present, if_pos present]
    refine ⟨rfl, refines.shares.drop topic conn, fun k => ?_, refines.kept.dropFrom _ _⟩
    rw [row_dropFrom, row_dropFrom, refines.topics, refines.topics]
  · rw [if_neg present, if_neg present]
    exact ⟨rfl, refines⟩

theorem removeAllForConnection_refines (conn : GlobalConnId) :
    Refines (s.removeAllForConnection conn) (t.removeAllForConnection conn) := by
  have topics := refines.topics conn
  unfold removeAllForConnection SubscriptionTables.removeAllForConnection
  cases found : s.connToTopics.lookup conn with
  | none =>
    rw [row, found, Option.getD_none] at topics
    rw [← topics]
    refine ⟨refines.shares, fun k => ?_, refines.kept⟩
    rw [row_erase, refines.topics]
    split
    · rename_i here
      rw [here, ← topics]
    · rfl
  | some listed =>
    rw [row, found] at topics
    rw [← topics]
    refine ⟨refines.shares.drop_all listed conn, fun k => ?_, refines.kept.erase conn⟩
    rw [row_erase, row_erase, refines.topics]

theorem removeAllForTopic_refines (ok : t.Consistent) (topic : Topic) :
    Refines (s.removeAllForTopic topic) (t.removeAllForTopic topic) := by
  have same := refines.shares.perm topic
  unfold removeAllForTopic SubscriptionTables.removeAllForTopic
  cases found : s.topicToConns.get topic with
  | none =>
    rw [found] at same
    have nobody : row t.topicToConns topic = [] := same.nil_eq.symm
    rw [nobody]
    refine ⟨?_, refines.topics, refines.kept⟩
    have removed := refines.shares.remove topic
    have nothing : s.topicToConns.remove topic = s.topicToConns := by
      rw [Table.remove, Table.get_eq_none.mp found]
    rwa [nothing] at removed
  | some vec =>
    rw [found, Option.getD_some] at same
    refine ⟨refines.shares.remove topic, fun k => ?_, refines.kept.foldl_dropFrom vec topic⟩
    have distinct := ok.conns_nodup topic
    rw [Map.row_foldl_dropFrom _ _ (same.nodup_iff.mpr distinct),
      Map.row_foldl_dropFrom _ _ distinct, refines.topics]
    simp only [same.mem_iff]

end

/-! ## Whole lives -/

/-- The calls of the class, and the end of a reader's use of a vector. -/
inductive Op where
  | subscribe (conn : GlobalConnId) (topic : Topic)
  | unsubscribe (conn : GlobalConnId) (topic : Topic)
  | removeAllForConnection (conn : GlobalConnId)
  | removeAllForTopic (topic : Topic)
  | getSubscribers (topic : Topic)
  | letGo (place : Nat)

def play (s : SharedSubscriptions) : Op → SharedSubscriptions
  | .subscribe conn topic => (s.subscribeConnection conn topic).2
  | .unsubscribe conn topic => (s.unsubscribeConnection conn topic).2
  | .removeAllForConnection conn => s.removeAllForConnection conn
  | .removeAllForTopic topic => s.removeAllForTopic topic
  | .getSubscribers topic => s.getSubscribers topic
  | .letGo place => s.letGo place

/-- The class holds consistent tables. -/
def Tabled (s : SharedSubscriptions) : Prop := ∃ t : SubscriptionTables, t.Consistent ∧ Refines s t

/-- Every call has its counterpart on the tables. -/
theorem play_tabled (tabled : s.Tabled) (op : Op) : (s.play op).Tabled := by
  obtain ⟨t, ok, refines⟩ := tabled
  cases op with
  | subscribe conn topic =>
    exact ⟨_, SubscriptionTables.subscribe_consistent ok, (subscribe_refines refines conn topic).2⟩
  | unsubscribe conn topic =>
    exact ⟨_, SubscriptionTables.unsubscribe_consistent ok,
      (unsubscribe_refines refines conn topic).2⟩
  | removeAllForConnection conn =>
    exact ⟨_, SubscriptionTables.removeAllForConnection_consistent ok,
      removeAllForConnection_refines refines conn⟩
  | removeAllForTopic topic =>
    exact ⟨_, SubscriptionTables.removeAllForTopic_consistent ok,
      removeAllForTopic_refines refines ok topic⟩
  | getSubscribers topic =>
    obtain ⟨sound, same⟩ := refines.shares.sound.hold topic
    exact ⟨t, ok, refines.shares.read sound same, refines.topics, refines.kept⟩
  | letGo place =>
    obtain ⟨sound, same⟩ := refines.shares.sound.letGo place
    exact ⟨t, ok, refines.shares.read sound same, refines.topics, refines.kept⟩

theorem run_tabled (ops : List Op) : (run play {} ops).Tabled := by
  apply run_invariant
  · exact fun s op tabled => play_tabled tabled op
  · exact ⟨{}, SubscriptionTables.consistent_empty, refines_empty⟩

/-- In the vector of a topic a subscriber stands once, and nobody else does. -/
theorem Refines.count_subscribers (refines : Refines s t) (ok : t.Consistent) (conn : GlobalConnId)
    (topic : Topic) :
    (s.subscribers topic).count conn = if topic ∈ row s.connToTopics conn then 1 else 0 := by
  rw [subscribers, (refines.shares.perm topic).count_eq, refines.topics]
  split
  · rename_i listed
    exact List.count_eq_one_of_mem (ok.conns_nodup topic) ((ok.same conn topic).mp listed)
  · rename_i unlisted
    exact List.count_eq_zero.mpr fun listed => unlisted ((ok.same conn topic).mpr listed)

/-- Whether the relation is another one. -/
def Changed (s s' : SharedSubscriptions) : Prop :=
  ∃ conn topic, ¬ (s'.Subscribed conn topic ↔ s.Subscribed conn topic)

theorem subscribe_changed (conn : GlobalConnId) (topic : Topic) :
    (s.subscribeConnection conn topic).1 = true ↔
      s.Changed (s.subscribeConnection conn topic).2 := by
  unfold subscribeConnection
  by_cases present : topic ∈ row s.connToTopics conn
  · rw [if_pos present]
    simp [Changed]
  · rw [if_neg present]
    refine iff_of_true rfl ⟨conn, topic, ?_⟩
    simp [Subscribed, row_insert, present]

theorem unsubscribe_changed (distinct : (row s.connToTopics conn).Nodup) :
    (s.unsubscribeConnection conn topic).1 = true ↔
      s.Changed (s.unsubscribeConnection conn topic).2 := by
  unfold unsubscribeConnection
  by_cases present : topic ∈ row s.connToTopics conn
  · rw [if_pos present]
    refine iff_of_true rfl ⟨conn, topic, ?_⟩
    simp [Subscribed, row_dropFrom, present, distinct.mem_erase_iff]
  · rw [if_neg present]
    simp [Changed]

/-- **Subscriptions.**  After every sequence of calls, with readers that take and let go of
vectors in between: a connection stands in a topic's vector once if the topic is in the
connection's set and not at all otherwise; no empty vector and no empty set is kept; the two
boolean answers say whether the relation changes; and every vector that a reader holds is
what the reader was given. -/
theorem vectors_stand_still (ops : List Op) :
    let s := run play {} ops
    (∀ conn topic, (s.subscribers topic).count conn =
        if topic ∈ row s.connToTopics conn then 1 else 0) ∧
      (∀ topic, s.topicToConns.get topic ≠ some []) ∧
      (∀ conn, s.connToTopics.lookup conn ≠ some []) ∧
      (∀ conn topic, (s.subscribeConnection conn topic).1 = true ↔
        s.Changed (s.subscribeConnection conn topic).2) ∧
      (∀ conn topic, (s.unsubscribeConnection conn topic).1 = true ↔
        s.Changed (s.unsubscribeConnection conn topic).2) ∧
      ∀ reader ∈ s.topicToConns.readers, s.topicToConns.heap.cells reader.cell = reader.seen := by
  obtain ⟨t, ok, refines⟩ := run_tabled ops
  refine ⟨refines.count_subscribers ok, refines.shares.kept, refines.kept, ?_, ?_, ?_⟩
  · exact fun conn topic => subscribe_changed conn topic
  · intro conn topic
    apply unsubscribe_changed
    rw [refines.topics]
    exact ok.topics_nodup conn
  · exact refines.shares.sound.held

end SharedSubscriptions

end Kergit
