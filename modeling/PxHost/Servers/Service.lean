import PxHost.Capacity.Service

/-! Creating, deleting, suspending and resuming servers. -/

namespace PxHost

/-- The texts in which creation and transfer word the same refusals. -/
structure AdmissionTexts where
  nodeNotFound : String
  unavailable : String → String
  allocationTaken : String
  noFreeAllocation : String

/-- The chosen allocation if it is free on the node, or else the first free one there. -/
def chooseAllocation (db : Db) (nodeId : NodeId) (requested : Option AllocationId) :
    Option AllocationId :=
  match requested with
  | none => pickFreeAllocation db nodeId
  | some id =>
    match db.allocations.get? id with
    | some a => if a.val.nodeId = nodeId ∧ a.val.serverId = none then some id else none
    | none => none

/--
The checks under the node lock: the node is live, accepts servers, has room and a free port. The
usage is what `usageForNode` has counted, which takes two queries.
-/
def admitOnNode (texts : AdmissionTexts) (db : Db) (now : Time) (nodeId : NodeId)
    (request : ResourceRequest) (allocationId : Option AllocationId)
    (usage : NodeUsage := usageForNode db nodeId) : Except ApiError AllocationId := do
  let some node := (db.nodes.get? nodeId).filter (·.deletedAt.isNone)
    | .error (.notFound texts.nodeNotFound)
  let resolved := resolveNodeCapacity now node
  match nodeAcceptsNewServers node (deriveHealthStatus now node.lastHeartbeatAt) resolved with
  | .error reason => .error (.conflict (texts.unavailable reason))
  | .ok () =>
    assertNodeFits resolved.toNodeCapacityInputs usage request
    match chooseAllocation db nodeId allocationId with
    | some allocation => return allocation
    | none => .error (.conflict
        (if allocationId.isSome then texts.allocationTaken else texts.noFreeAllocation))

structure CreateOnNodeInput where
  ownerId : UserId
  planId : PlanId
  name : Option String := none
  allocationId : Option AllocationId := none
  attachSubscriptionId : Option SubscriptionId := none
deriving DecidableEq

/-- Why a variable sent along with a server is refused. -/
inductive VariableRefusal where
  | notEditable (key : String)
  | invalid (name error : String)
deriving DecidableEq

def VariableRefusal.error : VariableRefusal → ApiError
  | .notEditable key => .forbidden s!"Variável não editável: {key}"
  | .invalid name error => .badRequest s!"{name}: {error}"

/-- The software chosen for a server, with what checking its variables came to. -/
structure TemplateContext where
  templateId : TemplateId
  dockerImage : String
  startupCommand : String
  /-- The startup command for the resolved variables, or the variable that was refused. -/
  resolvedStartupCommand : Except VariableRefusal String

/-- The identifiers drawn for a new server; short ids are tried in order. -/
structure FreshServer where
  id : ServerId
  shortIds : List String
deriving DecidableEq

/-- The first of five drawn short ids that no server has. -/
def generateUniqueShortId (db : Db) (candidates : List String) : Except ApiError String :=
  match (candidates.take 5).find? fun candidate =>
      (db.servers.find? fun _ s => s.val.shortId == candidate).isNone with
  | some candidate => .ok candidate
  | none => .error (.conflict "Could not allocate a unique short_id, please retry")

def createOnNodeTexts : AdmissionTexts where
  nodeNotFound := "Node not found"
  unavailable reason := reason
  allocationTaken := "Requested allocation is not free"
  noFreeAllocation := "No free allocation available on this node"

def newServer (dto : CreateOnNodeInput) (nodeId : NodeId) (plan : Plan) (uid : Nat)
    (shortId : String) (context : Option TemplateContext) : Server where
  shortId := shortId
  ownerId := dto.ownerId
  nodeId := nodeId
  templateId := context.map (·.templateId)
  planId := some dto.planId
  uid := some uid
  name := dto.name.getD s!"Servidor {shortId}"
  dockerImage := context.map (·.dockerImage)
  startupCommand := context.map (·.startupCommand)
  limits := plan.limits
  maxAllocations := plan.maxAllocations
  status := if context.isSome then .installing else .setupPending

def attachSubscription (db : Db) (dto : CreateOnNodeInput) (serverId : ServerId) :
    Except ApiError Db :=
  match dto.attachSubscriptionId with
  | none => .ok db
  | some id =>
    match (db.subscriptions.get? id).filter (·.userId == dto.ownerId) with
    | none => .error (.notFound "Subscription not found for attach")
    | some subscription =>
      -- Neither the status nor the plan of the subscription is looked at.
      if subscription.serverId.isSome then .error (.conflict
        "SUBSCRIPTION_ALREADY_HAS_SERVER: this subscription is already attached to a server")
      else .ok { db with
        subscriptions := db.subscriptions.modify id fun s => { s with serverId := some serverId } }

/-- The startup command is rewritten when the resolved variables change it. -/
def resolveTemplate (db : Db) (context : Option TemplateContext) (serverId : ServerId) :
    Except ApiError Db :=
  match context with
  | none => .ok db
  | some template =>
    match template.resolvedStartupCommand with
    | .error refusal => .error refusal.error
    | .ok startupCommand =>
      db.updateServer serverId fun s => { s with startupCommand := some startupCommand }

def placeOnNode (db : Db) (now : Time) (dto : CreateOnNodeInput) (nodeId : NodeId) (plan : Plan)
    (context : Option TemplateContext) (fresh : FreshServer)
    (usage : NodeUsage := usageForNode db nodeId) : Except ApiError Db := do
  let allocation ←
    admitOnNode createOnNodeTexts db now nodeId plan.limits.request dto.allocationId usage
  let shortId ← generateUniqueShortId db fresh.shortIds
  let db ← db.createServer fresh.id
    (newServer dto nodeId plan (nextUid db nodeId) shortId context)
  let db ← db.updateAllocation allocation
    fun a => { a with serverId := some fresh.id, isPrimary := true }
  let db ← attachSubscription db dto fresh.id
  resolveTemplate db context fresh.id

def createOnNode (db : Db) (now : Time) (dto : CreateOnNodeInput) (nodeId : NodeId)
    (context : Option TemplateContext) (fresh : FreshServer)
    (usage : NodeUsage := usageForNode db nodeId) : Except ApiError Db := do
  let some plan := (db.plans.get? dto.planId).filter (·.deletedAt.isNone)
    | .error (.notFound "Plan not found")
  -- The slot a paid customer already holds is counted against that customer as well.
  assertSlots (occupiedSlots db dto.planId) plan.maxSlots
  if !isNodeAllowedForPlan db dto.planId nodeId then
    .error (.conflict "This plan is not allowed on the requested node")
  else placeOnNode db now dto nodeId plan context fresh usage

def removeServer (db : Db) (id : ServerId) : Except ApiError Db :=
  match db.server? id with
  | none => .error (.notFound "Server not found")
  | some _ => .ok (db.removeServer id)

def Server.suspended (now : Time) (reason : String) (source : SuspensionSource)
    (s : Server) : Server :=
  { s with
    status := .suspended
    suspendedAt := some now
    suspensionReason := some reason
    suspensionSource := some source }

def Server.unsuspended (s : Server) : Server :=
  { s with
    status := .ready
    suspendedAt := none
    suspensionReason := none
    suspensionSource := none }

/-- Suspend a server; whoever suspends last is the one on record. -/
def suspend (db : Db) (now : Time) (id : ServerId) (reason : String)
    (source : SuspensionSource) : Except ApiError Db :=
  match db.server? id with
  | none => .error (.notFound "Server not found")
  | some _ => db.updateServer id (·.suspended now reason source)

/-- Lift a suspension, or leave it when it is not of the required source. -/
def unsuspend (db : Db) (id : ServerId) (requireSource : Option SuspensionSource) :
    Except ApiError (Db × Bool) :=
  match db.server? id with
  | none => .error (.notFound "Server not found")
  | some server =>
    if requireSource.isSome ∧ server.suspensionSource ≠ requireSource then .ok (db, false)
    else do
      let db ← db.updateServer id (·.unsuspended)
      return (db, true)

def Server.reported (now : Time) (successful : Bool) (s : Server) : Server :=
  if successful then { s with status := .ready, installedAt := some now }
  else { s with status := .installFailed }

def reportInstallResult (db : Db) (now : Time) (nodeId : NodeId) (id : ServerId)
    (successful : Bool) : Except ApiError Db :=
  match (db.server? id).filter (·.nodeId == nodeId) with
  | none => .error (.notFound "Server not found on this node")
  | some _ => db.updateServer id (·.reported now successful)

/-- What becomes of a server whose creation could not be handed to its agent. -/
def dispatchFailed (db : Db) (id : ServerId) : Except ApiError Db :=
  db.updateServer id fun s => { s with status := .installFailed }

end PxHost
