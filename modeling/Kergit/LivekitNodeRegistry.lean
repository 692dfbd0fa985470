import Kergit.Lib.Maps
import Kergit.Ids

/-!
`LivekitNodeRegistry`: the configured LiveKit nodes, which node each room is
bound to, and the room and user gauges.

Routing is LiveKit's own; the registry only answers "is there a node to talk to"
round-robin and keeps bindings and counts for diagnostics.  `load_score` is
derived from the two gauges and read by nothing the voice code calls, so it is
not kept.
-/

namespace Kergit

open Lib

structure LivekitNode where
  nodeId : String
  publicHost : String := ""
  privateHost : String := ""
  activeRooms : Nat := 0
  activeUsers : Nat := 0
deriving DecidableEq, Repr

structure LivekitNodeRegistry where
  nodes : Map String LivekitNode := ∅
  nodeOrder : List String := []
  roomToNode : Map ChannelId String := ∅
  countedRoomToNode : Map ChannelId String := ∅
  roundRobinCursor : Nat := 0

namespace LivekitNodeRegistry

variable (r : LivekitNodeRegistry) (node : LivekitNode)

-- `register_node`, for an id not registered yet.
def registerNode : LivekitNodeRegistry :=
  { r with nodeOrder := r.nodeOrder ++ [node.nodeId], nodes := r.nodes.insert node.nodeId node }

def getNode (nodeId : String) : Option LivekitNode := r.nodes.lookup nodeId

variable (room : ChannelId)

def getRoomNode : Option LivekitNode :=
  (r.roomToNode.lookup room).bind r.getNode

/-- Change a node in place, if it is registered. -/
def modifyNode (nodeId : String) (change : LivekitNode → LivekitNode) : LivekitNodeRegistry :=
  match r.nodes.lookup nodeId with
  | none => r
  | some node => { r with nodes := r.nodes.insert nodeId (change node) }

def incRooms : LivekitNode := { node with activeRooms := node.activeRooms + 1 }

/-- `if (active_rooms > 0) active_rooms--`. -/
def decRooms : LivekitNode := { node with activeRooms := node.activeRooms - 1 }

def incUsers : LivekitNode := { node with activeUsers := node.activeUsers + 1 }

def decUsers : LivekitNode := { node with activeUsers := node.activeUsers - 1 }

def bindRoom (nodeId : String) : LivekitNodeRegistry :=
  if nodeId ∉ r.nodes ∨ r.roomToNode.lookup room = some nodeId then r
  else
    let r :=
      match r.countedRoomToNode.lookup room with
      | none => r
      | some counted =>
        if counted = nodeId then r
        else
          let r := (r.modifyNode counted decRooms).modifyNode nodeId incRooms
          { r with countedRoomToNode := r.countedRoomToNode.insert room nodeId }
    { r with roomToNode := r.roomToNode.insert room nodeId }

def decrementRoom : LivekitNodeRegistry :=
  match r.countedRoomToNode.lookup room with
  | none => r
  | some counted =>
    let r := r.modifyNode counted decRooms
    { r with countedRoomToNode := r.countedRoomToNode.erase room }

-- `clear_room`: the count goes as in `decrement_room`, then the binding.
def clearRoom : LivekitNodeRegistry :=
  let r := r.decrementRoom room
  { r with roomToNode := r.roomToNode.erase room }

def incrementRoom (nodeId : String) : LivekitNodeRegistry :=
  if nodeId ∉ r.nodes ∨ r.countedRoomToNode.lookup room = some nodeId then r
  else
    let r :=
      match r.countedRoomToNode.lookup room with
      | none => r
      | some counted => r.modifyNode counted decRooms
    let r := r.modifyNode nodeId incRooms
    { r with
      roomToNode := r.roomToNode.insert room nodeId
      countedRoomToNode := r.countedRoomToNode.insert room nodeId }

def incrementUser (nodeId : String) : LivekitNodeRegistry := r.modifyNode nodeId incUsers

def decrementUser (nodeId : String) : LivekitNodeRegistry := r.modifyNode nodeId decUsers

-- the loop of `any_node`, with the attempts left.
def nextNode : Nat → LivekitNodeRegistry → Option LivekitNode × LivekitNodeRegistry
  | 0, r => (none, r)
  | attempts + 1, r =>
    let advanced := { r with roundRobinCursor := r.roundRobinCursor + 1 }
    match r.nodeOrder[r.roundRobinCursor % r.nodeOrder.length]?.bind r.getNode with
    | some node => (some node, advanced)
    | none => nextNode attempts advanced

-- `any_node`: round-robin over the configured nodes.
def anyNode : Option LivekitNode × LivekitNodeRegistry := nextNode r.nodeOrder.length r

def listNodes : List LivekitNode := r.nodeOrder.filterMap r.getNode

end LivekitNodeRegistry

end Kergit
