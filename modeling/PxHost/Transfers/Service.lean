import PxHost.Servers.Service

/-! Moving a server to another node. -/

namespace PxHost

/-- The check before the transaction; the row it read is what the transaction works with. -/
def initiateRead (db : Db) (serverId : ServerId) (targetNodeId : NodeId) :
    Except ApiError Server :=
  match db.server? serverId with
  | none => .error (.notFound "Server not found")
  | some server =>
    if server.nodeId = targetNodeId then .error (.conflict "Server is already on that node")
    else if server.status ≠ .ready then .error (.conflict
      s!"Server must be ready to transfer (current status: {server.status.text})")
    else .ok server

def initiateTexts : AdmissionTexts where
  nodeNotFound := "Target node not found"
  unavailable reason := s!"Target node unavailable: {reason}"
  allocationTaken := "Requested allocation is not free"
  noFreeAllocation := "No free allocation available on the target node"

/-- Reserve room and a port on the target, sized by the row read before the transaction. -/
def initiate (db : Db) (now : Time) (serverId : ServerId) (server : Server)
    (targetNodeId : NodeId) (targetAllocationId : Option AllocationId) (transferId : TransferId)
    (usage : NodeUsage := usageForNode db targetNodeId) : Except ApiError Db := do
  let allocation ← admitOnNode initiateTexts db now targetNodeId server.limits.request
    targetAllocationId usage
  let db ← db.createTransfer transferId
    { serverId, sourceNodeId := server.nodeId, targetNodeId
      targetAllocationId := some allocation
      targetUid := some (nextUid db targetNodeId), status := .pending }
  let db ← db.updateAllocation allocation
    fun a => { a with serverId := some serverId, isPrimary := false }
  db.updateServer serverId fun s => { s with status := .transferring }

def ServerTransfer.staged (status : TransferStatus) (startedAt : Option Time)
    (t : ServerTransfer) : ServerTransfer :=
  { t with status, startedAt := startedAt <|> t.startedAt }

/-- A pipeline step's status write, whatever the transfer's status is by then. -/
def setTransferStatus (db : Db) (transferId : TransferId) (status : TransferStatus)
    (startedAt : Option Time) : Except ApiError Db :=
  db.updateTransfer transferId (·.staged status startedAt)

def ServerTransfer.failedWith (now : Time) (message : String) (t : ServerTransfer) :
    ServerTransfer :=
  { t with status := .failed, errorMessage := some message, completedAt := some now }

/-- Give up a transfer: free the reserved port and send the server back to `ready`. -/
def failTransfer (db : Db) (now : Time) (transferId : TransferId) (message : String) :
    Except ApiError Db := do
  let some row := db.transfers.get? transferId | .error Db.missing
  let db ← db.updateTransfer transferId (·.failedWith now message)
  let db ← match row.targetAllocationId with
    | some allocation =>
      db.updateAllocation allocation fun a => { a with serverId := none, isPrimary := false }
    | none => .ok db
  db.updateServer row.serverId fun s => { s with status := .ready }

def freeAllocations (db : Db) (serverId : ServerId) (nodeId : NodeId) : Db :=
  { db with
    allocations := db.allocations.updateWhere
      (fun _ a => a.val.serverId == some serverId && a.val.nodeId == nodeId)
      fun a => ⟨{ a.val with serverId := none, isPrimary := false }, a.checked_freed⟩ }

def ServerTransfer.succeeded (now : Time) (t : ServerTransfer) : ServerTransfer :=
  { t with status := .success, completedAt := some now }

def Server.movedTo (transfer : ServerTransfer) (s : Server) : Server :=
  { s with nodeId := transfer.targetNodeId, uid := transfer.targetUid, status := .ready }

/-- Move the server over, without looking at what became of the transfer in the meantime. -/
def completeTransfer (db : Db) (now : Time) (transferId : TransferId) (transfer : ServerTransfer) :
    Except ApiError Db := do
  let db := freeAllocations db transfer.serverId transfer.sourceNodeId
  let db ← match transfer.targetAllocationId with
    | some allocation => db.updateAllocation allocation fun a => { a with isPrimary := true }
    | none => .ok db
  let db ← db.updateServer transfer.serverId (·.movedTo transfer)
  db.updateTransfer transferId (·.succeeded now)

def handleResult (db : Db) (now : Time) (nodeId : NodeId) (transferId : TransferId)
    (successful : Bool) (errorMessage : Option String) : Except ApiError Db :=
  match db.transfers.get? transferId with
  | none => .error (.notFound "Transfer not found")
  | some transfer =>
    if transfer.targetNodeId ≠ nodeId then .error (.notFound "Transfer not found on this node")
    else if successful then completeTransfer db now transferId transfer
    else failTransfer db now transferId (errorMessage.getD "target node reported failure")

end PxHost
