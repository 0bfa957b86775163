import PxHost.Lib.Fallible
import PxHost.Capacity.Math
import PxHost.Schema.Database

/-! What the database says about the slots of a plan and the room on a node. -/

namespace PxHost

/-- Linux user ids of servers start here on every node. -/
def UID_BASE : Nat := 100000

/-- A server holds a slot of its plan until it is being deleted. -/
def Server.holdsSlot (s : Server) (planId : PlanId) : Bool :=
  s.planId == some planId && s.status != .deleting

/-- A subscription holds a slot while it is active and has no server that holds it instead. -/
def Subscription.holdsSlot (s : Subscription) (planId : PlanId) : Bool :=
  s.planId == planId && s.serverId.isNone && s.status == .active

/-- How many slots of a plan are taken, by servers and by customers still waiting for one. -/
def occupiedSlots (db : Db) (planId : PlanId) : Nat :=
  db.servers.count (fun _ s => s.val.holdsSlot planId) +
    db.subscriptions.count (fun _ s => s.holdsSlot planId)

/-- A plan without node restrictions may be placed anywhere. -/
def isNodeAllowedForPlan (db : Db) (planId : PlanId) (nodeId : NodeId) : Bool :=
  (db.planNodes.countP fun row => row.planId == planId) == 0 ||
    db.planNodes.countP (fun row => row.planId == planId && row.nodeId == nodeId) > 0

def Server.size (s : Server) : Dimension → Nat
  | .memory => s.limits.memoryMb
  | .disk => s.limits.diskMb
  | .cpu => s.limits.cpuLimitPercent

/-- What a server takes of the node it is settled on. -/
def Server.settledOn (s : Server) (nodeId : NodeId) (d : Dimension) : Nat :=
  if s.nodeId = nodeId ∧ s.status ≠ .deleting then s.size d else 0

/-- What a transfer reserves on the node it is heading for, at its server's current size. -/
def ServerTransfer.inFlightTo (db : Db) (t : ServerTransfer) (nodeId : NodeId)
    (d : Dimension) : Nat :=
  if t.targetNodeId = nodeId ∧ t.status.isActive then
    ((db.server? t.serverId).map (·.size d)).getD 0
  else 0

def usageIn (db : Db) (nodeId : NodeId) (d : Dimension) : Nat :=
  db.servers.sum (fun _ s => s.val.settledOn nodeId d) +
    db.transfers.sum (fun _ t => t.inFlightTo db nodeId d)

def usageForNode (db : Db) (nodeId : NodeId) : NodeUsage where
  memoryMb := usageIn db nodeId .memory
  diskMb := usageIn db nodeId .disk
  cpuPercent := usageIn db nodeId .cpu

def Limits.request (l : Limits) : ResourceRequest where
  memoryMb := l.memoryMb
  diskMb := l.diskMb
  cpuPercent := l.cpuLimitPercent

/-- One more than the highest user id on the node, counting from the base. -/
def nextUid (db : Db) (nodeId : NodeId) : Nat :=
  let uids := (db.servers.filter fun _ s => s.val.nodeId == nodeId).filterMap (·.2.val.uid)
  max (uids.max?.getD (UID_BASE - 1)) (UID_BASE - 1) + 1

def liveNodes (db : Db) : List (NodeId × Node) := db.nodes.filter fun _ n => n.deletedAt.isNone

/-- Some node has been heard of lately; only then do nodes have a say in the storefront. -/
def hasAnyHealthyNode (db : Db) (now : Time) : Bool :=
  (liveNodes db).any fun row =>
    let health := deriveHealthStatus now row.2.lastHeartbeatAt
    health == .online || health == .degraded

def eligibleNodes (db : Db) (planId : PlanId) : List (NodeId × Node) :=
  let restricted := db.planNodes.filter fun row => row.planId == planId
  if restricted.isEmpty then liveNodes db
  else (liveNodes db).filter fun node => restricted.any fun row => row.nodeId == node.1

/-- Add what one node takes; a node without a bound lifts the bound for good. -/
def addNodeSlots (db : Db) (now : Time) (request : ResourceRequest) (derived : Option Int)
    (row : NodeId × Node) : Option Int :=
  let resolved := resolveNodeCapacity now row.2
  match nodeAcceptsNewServers row.2 (deriveHealthStatus now row.2.lastHeartbeatAt) resolved with
  | .error _ => derived
  | .ok () =>
    match (slotsForPlanOnNode resolved.toNodeCapacityInputs (usageForNode db row.1) request).slots with
    | none => none
    | some slots => derived.map (· + slots)

/-- How many more servers of a plan its nodes take together, or `none` for no bound. -/
def derivedSlotsForPlan (db : Db) (now : Time) (planId : PlanId) (limits : Limits) : Option Int :=
  (eligibleNodes db planId).foldl (addNodeSlots db now limits.request) (some 0)

def pickFreeAllocation (db : Db) (nodeId : NodeId) : Option AllocationId :=
  ((db.allocations.filter fun _ a => a.val.nodeId == nodeId && a.val.serverId.isNone).map
    Prod.fst).min?

end PxHost
