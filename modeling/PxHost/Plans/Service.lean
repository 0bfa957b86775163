import Mathlib.Algebra.Ring.Int.Defs
import PxHost.Servers.Service

/-! Editing a plan and pushing its limits to the servers that were sold on it. -/

namespace PxHost

structure UpdatePlanDto where
  limits : Option Limits := none
  maxSlots : Option (Option Nat) := none
  priceCents : Option Int := none
  isPublic : Option Bool := none
  billingPeriod : Option (Option BillingPeriod) := none
deriving DecidableEq

/-- Edit the plan row; no server is resized by it. -/
def updatePlanRow (db : Db) (planId : PlanId) (dto : UpdatePlanDto) : Except ApiError Db :=
  match (db.plans.get? planId).filter (·.deletedAt.isNone) with
  | none => .error (.notFound "Plan not found")
  | some _ => db.updatePlan planId fun plan =>
      { plan with
        limits := dto.limits.getD plan.limits
        maxSlots := dto.maxSlots.getD plan.maxSlots
        priceCents := dto.priceCents.getD plan.priceCents
        isPublic := dto.isPublic.getD plan.isPublic
        billingPeriod := dto.billingPeriod.getD plan.billingPeriod }

/-- A server whose copied limits differ from its plan's current ones. -/
def Server.drifted (s : Server) (planId : PlanId) (limits : Limits) : Bool :=
  s.planId == some planId && s.status != .deleting && s.limits != limits

def computeDriftRows (db : Db) (planId : PlanId) (plan : Plan) : List (ServerId × ServerRow) :=
  db.servers.filter fun _ s => s.val.drifted planId plan.limits

/-- How much more of one resource the drifted servers of a node would take. -/
def nodeDelta (plan : Plan) (rows : List (ServerId × ServerRow)) (nodeId : NodeId)
    (amount : Limits → Nat) : Int :=
  ((rows.filter fun row => row.2.val.nodeId == nodeId).map fun row =>
    (amount plan.limits : Int) - amount row.2.val.limits).sum

def computeNodeDelta (plan : Plan) (rows : List (ServerId × ServerRow)) (nodeId : NodeId) :
    ResourceRequest where
  memoryMb := nodeDelta plan rows nodeId (·.memoryMb)
  diskMb := nodeDelta plan rows nodeId (·.diskMb)
  cpuPercent := nodeDelta plan rows nodeId (·.cpuLimitPercent)

/-- What a node says against taking the resized servers. -/
def nodeShortfall (db : Db) (now : Time) (plan : Plan) (rows : List (ServerId × ServerRow))
    (nodeId : NodeId) : Option String :=
  match (db.nodes.get? nodeId).filter (·.deletedAt.isNone) with
  | none => none
  | some node =>
    let reasons := nodeFitReasons (resolveNodeCapacity now node).toNodeCapacityInputs
      (usageForNode db nodeId) (computeNodeDelta plan rows nodeId)
    if reasons.isEmpty then none
    else some (node.name ++ " (" ++ "; ".intercalate reasons ++ ")")

/-- New limits never change whether a row passes the checks. -/
def ServerRow.withLimits (row : ServerRow) (limits : Limits) : ServerRow :=
  ⟨{ row.val with limits }, row.property.1, row.property.2, row.property.3, row.property.4⟩

/-- Push a plan's limits to every drifted server, or to none. -/
def applyToServers (db : Db) (now : Time) (planId : PlanId) : Except ApiError Db := do
  let some plan := (db.plans.get? planId).filter (·.deletedAt.isNone)
    | .error (.notFound "Plan not found")
  let rows := computeDriftRows db planId plan
  -- Only the nodes the drifted servers are settled on are checked.
  let nodeIds := (rows.map fun row => row.2.val.nodeId).dedup.mergeSort
  let shortfalls := nodeIds.filterMap (nodeShortfall db now plan rows)
  if shortfalls ≠ [] then .error (.planExceedsNodes shortfalls)
  else return { db with
    servers := db.servers.updateWhere (fun _ s => s.val.drifted planId plan.limits)
      fun s => ServerRow.withLimits s plan.limits }

end PxHost
