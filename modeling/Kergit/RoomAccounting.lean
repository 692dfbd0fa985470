import Kergit.Lib.Staged
import Kergit.LivekitNodeRegistry

/-!
The room gauges of the LiveKit nodes, over every sequence of room calls.

A call takes its room off the node it is counted on, puts it on another, or both.
`Accounted` compares the gauges with the rooms counted on each node.
-/

namespace Kergit.LivekitNodeRegistry

open Lib

variable {r : LivekitNodeRegistry} {room : ChannelId} {nodeId n : String}
  {nodes : Map String LivekitNode} {bound bound' counted : Map ChannelId String}

/-- How many rooms are counted on a node. -/
def countedOn (counted : Map ChannelId String) (nodeId : String) : Nat :=
  counted.entries.countP fun entry => decide (entry.2 = nodeId)

/-- What a node's gauge shows; nothing for a node that is not registered. -/
def gauge (nodes : Map String LivekitNode) (nodeId : String) : Nat :=
  (nodes.lookup nodeId).elim 0 (·.activeRooms)

theorem countedOn_insert : countedOn (counted.insert room nodeId) n =
    countedOn (counted.erase room) n + if n = nodeId then 1 else 0 := by
  rw [countedOn, AList.entries_insert, List.countP_cons]
  simp [@eq_comm _ nodeId]
  rfl

theorem countedOn_erase (found : counted.lookup room = some nodeId) :
    countedOn counted n = countedOn (counted.erase room) n + if n = nodeId then 1 else 0 := by
  rw [← countedOn_insert, countedOn, (Map.entries_perm_of_lookup _ _ _ found).countP_eq]
  rfl

theorem gauge_insert (node : LivekitNode) : gauge (nodes.insert nodeId node) n =
    if n = nodeId then node.activeRooms else gauge nodes n := by
  rw [gauge, Map.lookup_insert_if]
  split <;> rfl

theorem gauge_found (here : nodes.lookup n = some node) : gauge nodes n = node.activeRooms := by
  rw [gauge, here]
  rfl

theorem modifyNode_found (found : r.nodes.lookup nodeId = some node)
    (change : LivekitNode → LivekitNode) :
    r.modifyNode nodeId change = { r with nodes := r.nodes.insert nodeId (change node) } := by
  rw [modifyNode, found]

/-- The rooms are bound where they are counted, and counted as the gauges show. -/
structure Accounted (nodes : Map String LivekitNode) (bound counted : Map ChannelId String) :
    Prop where
  there : ∀ {room n}, counted.lookup room = some n → bound.lookup room = some n
  exact : ∀ n, gauge nodes n = countedOn counted n

namespace Accounted

/-- A counted room is one of those its node's gauge shows. -/
theorem positive (kept : Accounted nodes bound counted) (found : counted.lookup room = some n) :
    ∃ node, nodes.lookup n = some node ∧ 0 < node.activeRooms := by
  have shows : 0 < gauge nodes n := by
    rw [kept.exact, countedOn_erase found, if_pos rfl]
    exact Nat.succ_pos _
  cases here : nodes.lookup n with
  | none => simp [gauge, here] at shows
  | some node => exact ⟨node, rfl, gauge_found here ▸ shows⟩

/-- A room taken off the gauge of its node. -/
theorem taken (kept : Accounted nodes bound counted) (found : counted.lookup room = some nodeId)
    (here : nodes.lookup nodeId = some node) :
    Accounted (nodes.insert nodeId (decRooms node)) bound (counted.erase room) where
  there still := kept.there (by grind)
  exact n := by
    have shown := (kept.exact n).trans (countedOn_erase found)
    grind [gauge_insert, gauge_found here, decRooms]

/-- A room that no gauge shows put on one. -/
theorem put (kept : Accounted nodes bound (counted.erase room))
    (here : nodes.lookup nodeId = some node) :
    Accounted (nodes.insert nodeId (incRooms node)) (bound.insert room nodeId)
      (counted.insert room nodeId) where
  there {other n} listed := by
    have before := @kept.there other n
    grind
  exact n := by
    rw [countedOn_insert, ← kept.exact]
    grind [gauge_insert, gauge_found here, incRooms]

/-- The binding of a room that no gauge shows may change. -/
theorem rebound (kept : Accounted nodes bound counted) (free : counted.lookup room = none)
    (same : ∀ other, other ≠ room → bound'.lookup other = bound.lookup other) :
    Accounted nodes bound' counted :=
  ⟨fun {other n} listed => by grind [kept.there listed], kept.exact⟩

end Accounted

/-- The registration of a node, by its id and hosts, and the calls that move rooms. -/
inductive RoomCall where
  | registerNode (nodeId publicHost privateHost : String)
  | bindRoom (room : ChannelId) (nodeId : String)
  | incrementRoom (room : ChannelId) (nodeId : String)
  | decrementRoom (room : ChannelId)
  | clearRoom (room : ChannelId)

/-- A call; an id that is taken is refused, and nothing is registered. -/
def call (r : LivekitNodeRegistry) : RoomCall → LivekitNodeRegistry
  | .registerNode nodeId publicHost privateHost =>
    if nodeId ∈ r.nodes then r else r.registerNode { nodeId, publicHost, privateHost }
  | .bindRoom room nodeId => r.bindRoom room nodeId
  | .incrementRoom room nodeId => r.incrementRoom room nodeId
  | .decrementRoom room => r.decrementRoom room
  | .clearRoom room => r.clearRoom room

abbrev InOrder (r : LivekitNodeRegistry) : Prop :=
  Accounted r.nodes r.roomToNode r.countedRoomToNode

theorem InOrder.decrementRoom (kept : r.InOrder) (room : ChannelId) :
    (r.decrementRoom room).InOrder ∧
      (r.decrementRoom room).countedRoomToNode.lookup room = none := by
  unfold LivekitNodeRegistry.decrementRoom
  split
  · exact ⟨kept, by assumption⟩
  · rename_i counted found
    obtain ⟨node, here, -⟩ := kept.positive found
    rw [modifyNode_found here]
    exact ⟨kept.taken found here, AList.lookup_erase ..⟩

/-- A room moved between two gauges, as `bind_room` and `increment_room` do it. -/
theorem InOrder.moved (kept : r.InOrder) (there : nodeId ∈ r.nodes)
    (found : r.countedRoomToNode.lookup room = some old) :
    let moved := (r.modifyNode old decRooms).modifyNode nodeId incRooms
    Accounted moved.nodes (moved.roomToNode.insert room nodeId)
      (moved.countedRoomToNode.insert room nodeId) := by
  obtain ⟨node, here, -⟩ := kept.positive found
  rw [modifyNode_found here]
  obtain ⟨next, listed⟩ := (Map.mem_iff_lookup (r.nodes.insert old (decRooms node)) nodeId).mp
    ((AList.mem_insert _).mpr (.inr there))
  rw [modifyNode_found listed]
  exact (kept.taken found here).put listed

theorem InOrder.call (kept : r.InOrder) (c : RoomCall) : (r.call c).InOrder := by
  cases c with
  | registerNode nodeId publicHost privateHost =>
    rw [LivekitNodeRegistry.call]
    split
    · exact kept
    · rename_i new
      refine ⟨kept.there, fun n => ((gauge_insert _).trans ?_).trans (kept.exact n)⟩
      split
      · rename_i same
        rw [same, gauge, AList.lookup_eq_none.mpr new]
        rfl
      · rfl
  | bindRoom room nodeId =>
    rw [LivekitNodeRegistry.call, bindRoom]
    split
    · exact kept
    · rename_i acts
      obtain ⟨there, elsewhere⟩ := not_or.mp acts
      cases found : r.countedRoomToNode.lookup room with
      | none => exact kept.rebound found fun other differ => AList.lookup_insert_ne differ
      | some old =>
        -- A counted room is bound where it is counted, so a new binding moves it.
        have moves : old ≠ nodeId := fun same => elsewhere (same ▸ kept.there found)
        simp only [if_neg moves]
        exact kept.moved (not_not.mp there) found
  | incrementRoom room nodeId =>
    rw [LivekitNodeRegistry.call, incrementRoom]
    split
    · exact kept
    · rename_i acts
      have there := not_not.mp (not_or.mp acts).1
      cases found : r.countedRoomToNode.lookup room with
      | none =>
        obtain ⟨node, here⟩ := (Map.mem_iff_lookup _ _).mp there
        dsimp only
        rw [modifyNode_found here]
        exact Accounted.put ((Map.erase_absent _ _ found).symm ▸ kept) here
      | some old => exact kept.moved there found
  | decrementRoom room => exact (kept.decrementRoom room).1
  | clearRoom room =>
    obtain ⟨taken, free⟩ := kept.decrementRoom room
    exact taken.rebound free fun other differ => AList.lookup_erase_ne differ

/-- **Room accounting.**  Whatever room calls are made, a counted room is bound to the node it
is counted on, and each gauge shows the number of rooms counted on its node.  A call only ever
takes its room off the node it is counted on, and that gauge is above zero. -/
theorem rooms_accounted (calls : List RoomCall) :
    let r := run call {} calls
    (∀ room n, r.countedRoomToNode.lookup room = some n → r.roomToNode.lookup room = some n) ∧
      (∀ n node, r.nodes.lookup n = some node →
        node.activeRooms = countedOn r.countedRoomToNode n) ∧
      ∀ room n, r.countedRoomToNode.lookup room = some n →
        ∃ node, r.nodes.lookup n = some node ∧ 0 < node.activeRooms := by
  have start : InOrder {} := ⟨nofun, fun _ => rfl⟩
  have kept : InOrder (run call {} calls) := run_invariant (fun _ c kept => kept.call c) start
  refine ⟨fun _ _ => kept.there, ?_, fun _ _ => kept.positive⟩
  exact fun n node found => (gauge_found found).symm.trans (kept.exact n)

end Kergit.LivekitNodeRegistry
