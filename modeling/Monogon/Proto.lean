import Mathlib.Data.List.Basic

/-! The protocol buffer messages exchanged with the curator, with the fields the modelled
services read or set: node status updates, the node watch, and the ClusterDirectory. -/

namespace Monogon.Proto

/-- `cpb.NodeStatus_RunningCurator`. -/
structure RunningCurator where
  port : Int
deriving DecidableEq, Repr

/-- `cpb.NodeStatus`. -/
structure NodeStatus where
  externalAddress : String
  runningCurator : Option RunningCurator
  version : String
deriving DecidableEq, Repr

/-- `ipb.UpdateNodeStatusRequest`. -/
structure UpdateNodeStatusRequest where
  nodeId : String
  status : NodeStatus
deriving DecidableEq, Repr

/-- `ipb.Node`, as the `NodesInCluster` watch delivers it. -/
structure Node where
  id : String
  status : Option NodeStatus
deriving DecidableEq, Repr

/-- `ipb.WatchEvent_NodeTombstone`. -/
structure NodeTombstone where
  nodeId : String
deriving DecidableEq, Repr

/-- `ipb.WatchEvent`. -/
structure WatchEvent where
  nodes : List Node
  nodeTombstones : List NodeTombstone
deriving DecidableEq, Repr

/-- `cpb.ClusterDirectory_Node_Address`. -/
structure ClusterDirectory.Address where
  host : String
deriving DecidableEq, Repr

/-- `cpb.ClusterDirectory_Node`. -/
structure ClusterDirectory.Node where
  addresses : List ClusterDirectory.Address
deriving DecidableEq, Repr

/-- `cpb.ClusterDirectory`. -/
structure ClusterDirectory where
  nodes : List ClusterDirectory.Node
deriving DecidableEq, Repr

end Monogon.Proto
