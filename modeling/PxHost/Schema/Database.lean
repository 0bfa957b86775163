import PxHost.Lib.Table
import PxHost.Schema.Rows

/-! The database state and its single statements, refused where a constraint would be violated. -/

namespace PxHost

open Store

/-- Everything a transaction can read or write. -/
structure Db where
  users : Table UserId User := .empty
  plans : Table PlanId Plan := .empty
  planNodes : List PlanNode := []
  nodes : Table NodeId Node := .empty
  servers : Table ServerId ServerRow := .empty
  allocations : Table AllocationId AllocationRow := .empty
  transfers : Table TransferId ServerTransfer := .empty
  subscriptions : Table SubscriptionId Subscription := .empty
  subscriptionEvents : List SubscriptionEvent := []
  orders : Table OrderId Order := .empty
  payments : Table PaymentId Payment := .empty
  webhookEvents : Table NotificationId PaymentWebhookEvent := .empty
  auditLog : List AuditEntry := []
deriving DecidableEq

namespace Db

/-- The columns of a server, without the proof that they pass the table's checks. -/
def server? (db : Db) (id : ServerId) : Option Server := (db.servers.get? id).map Subtype.val

/-- Append to the audit trail; recording never fails. -/
def record (db : Db) (entry : AuditEntry) : Db := { db with auditLog := db.auditLog ++ [entry] }

def createSubscriptionEvent (db : Db) (event : SubscriptionEvent) : Db :=
  { db with subscriptionEvents := db.subscriptionEvents ++ [event] }

/-- An update by primary key is refused when there is no such row. -/
def missing : ApiError := .notFound "Record to update not found"

def updateSubscription (db : Db) (id : SubscriptionId) (f : Subscription → Subscription) :
    Except ApiError Db :=
  match db.subscriptions.get? id with
  | none => .error missing
  | some _ => .ok { db with subscriptions := db.subscriptions.modify id f }

def updateOrder (db : Db) (id : OrderId) (f : Order → Order) : Except ApiError Db :=
  match db.orders.get? id with
  | none => .error missing
  | some _ => .ok { db with orders := db.orders.modify id f }

def updatePlan (db : Db) (id : PlanId) (f : Plan → Plan) : Except ApiError Db :=
  match db.plans.get? id with
  | none => .error missing
  | some _ => .ok { db with plans := db.plans.modify id f }

/-- Store a row that is known to pass the checks in place of the one under its key. -/
def setServer (db : Db) (id : ServerId) (row : ServerRow) : Db :=
  { db with servers := db.servers.modify id fun _ => row }

/-- Updating a server re-evaluates the check constraints on the new columns. -/
def updateServer (db : Db) (id : ServerId) (f : Server → Server) : Except ApiError Db :=
  match db.servers.get? id with
  | none => .error missing
  | some row =>
    if ok : (f row.val).Checked then .ok (db.setServer id ⟨f row.val, ok⟩)
    else .error (.constraint "servers check constraint")

/-- Store an allocation that is known to pass the checks in place of the one under its key. -/
def setAllocation (db : Db) (id : AllocationId) (row : AllocationRow) : Db :=
  { db with allocations := db.allocations.modify id fun _ => row }

/-- No other allocation is the primary one of the same server. -/
def primaryFree (db : Db) (id : AllocationId) (a : Allocation) : Bool :=
  !a.isPrimary || (db.allocations.find? fun other row =>
    other != id && row.val.isPrimary && row.val.serverId == a.serverId).isNone

/-- Updating an allocation re-evaluates its check and the one-primary-per-server index. -/
def updateAllocation (db : Db) (id : AllocationId) (f : Allocation → Allocation) :
    Except ApiError Db :=
  match db.allocations.get? id with
  | none => .error missing
  | some row =>
    if ok : (f row.val).Checked then
      if db.primaryFree id (f row.val) then .ok (db.setAllocation id ⟨f row.val, ok⟩)
      else .error (.constraint "allocations_one_primary_uq")
    else .error (.constraint "allocations check constraint")

end Db

/-- The transfers that still reserve room on their target node. -/
def TransferStatus.isActive : TransferStatus → Bool
  | .pending | .archiving | .uploading | .restoring => true
  | .success | .failed | .cancelled => false

namespace Db

def transferFree (db : Db) (id : TransferId) (t : ServerTransfer) : Bool :=
  !t.status.isActive || (db.transfers.find? fun other row =>
    other != id && row.status.isActive && row.serverId == t.serverId).isNone

/-- Updating a transfer re-evaluates the one-active-transfer-per-server index. -/
def updateTransfer (db : Db) (id : TransferId) (f : ServerTransfer → ServerTransfer) :
    Except ApiError Db :=
  match db.transfers.get? id with
  | none => .error missing
  | some row =>
    if db.transferFree id (f row) then .ok { db with transfers := db.transfers.modify id f }
    else .error (.constraint "transfers_one_active")

def createTransfer (db : Db) (id : TransferId) (t : ServerTransfer) : Except ApiError Db :=
  if db.transferFree id t then
    match db.transfers.insert? id t with
    | some transfers => .ok { db with transfers }
    | none => .error (.constraint "server_transfers_pkey")
  else .error (.constraint "transfers_one_active")

def createSubscription (db : Db) (id : SubscriptionId) (s : Subscription) : Except ApiError Db :=
  match db.subscriptions.insert? id s with
  | some subscriptions => .ok { db with subscriptions }
  | none => .error (.constraint "subscriptions_pkey")

/-- An order is refused when its external reference is taken. -/
def createOrder (db : Db) (id : OrderId) (o : Order) : Except ApiError Db :=
  match db.orders.find? fun _ other => other.externalReference == o.externalReference with
  | some _ => .error (.constraint "orders_external_reference_key")
  | none =>
    match db.orders.insert? id o with
    | some orders => .ok { db with orders }
    | none => .error (.constraint "orders_pkey")

def createServer (db : Db) (id : ServerId) (s : Server) : Except ApiError Db :=
  if ok : s.Checked then
    match db.servers.insert? id ⟨s, ok⟩ with
    | some servers => .ok { db with servers }
    | none => .error (.constraint "servers_pkey")
  else .error (.constraint "servers check constraint")

/--
Clear the primary flag of a server's allocations and delete the server.
The foreign keys detach it from subscriptions, orders and allocations, and its transfers go along.
-/
def removeServer (db : Db) (id : ServerId) : Db :=
  { db with
    servers := db.servers.erase id
    subscriptions := db.subscriptions.updateWhere (fun _ s => s.serverId == some id)
      fun s => { s with serverId := none }
    orders := db.orders.updateWhere (fun _ o => o.serverId == some id)
      fun o => { o with serverId := none }
    allocations := db.allocations.updateWhere (fun _ a => a.val.serverId == some id)
      fun a => ⟨{ a.val with serverId := none, isPrimary := false }, a.checked_freed⟩
    transfers := db.transfers.eraseWhere fun _ t => t.serverId == id }

end Db

end PxHost
