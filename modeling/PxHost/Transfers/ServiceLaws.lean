import PxHost.Servers.ServiceLaws
import PxHost.Transfers.Service

/-! What each step of a transfer did when it succeeded. -/

namespace PxHost

open Store Fallible

variable {db after : Db} {now : Time} {transferId : TransferId}

/-- A transfer starts on a target with room for the row that was read. -/
structure Initiated (db : Db) (now : Time) (serverId : ServerId) (read : Server)
    (targetNodeId : NodeId) (transferId : TransferId) (after : Db) : Prop where
  node : ∃ node, db.nodes.get? targetNodeId = some node ∧ node.deletedAt.isNone ∧
    Fits (resolveNodeCapacity now node).toNodeCapacityInputs (usageForNode db targetNodeId)
      read.limits.request
  rows : ∃ (t : ServerTransfer) (unused : db.transfers.get? transferId = none) (row : ServerRow)
    (ok : ({ row.val with status := .transferring } : Server).Checked)
    (allocations : Table AllocationId AllocationRow),
    t.serverId = serverId ∧ t.targetNodeId = targetNodeId ∧ t.status = .pending ∧
      db.servers.get? serverId = some row ∧
      after = { db with
        transfers := db.transfers.add transferId t unused
        allocations
        servers := db.servers.modify serverId fun _ => ⟨_, ok⟩ }
  port : ∃ id port, db.allocations.get? id = some port ∧ port.val.nodeId = targetNodeId ∧
    port.val.serverId = none ∧ (∃ owned : Allocation.Checked _,
      after.allocations = db.allocations.modify id fun _ =>
        ⟨{ port.val with serverId := some serverId, isPrimary := false }, owned⟩) ∧
    ∃ t : ServerTransfer, after.transfers.get? transferId = some t ∧ db.transferFree transferId t ∧
      t = { serverId, sourceNodeId := read.nodeId, targetNodeId, targetAllocationId := some id
            targetUid := some (nextUid db targetNodeId), status := .pending }

theorem initiate_ok {serverId : ServerId} {read : Server} {targetNodeId : NodeId}
    {requested : Option AllocationId}
    (initiates : initiate db now serverId read targetNodeId requested transferId = .ok after) :
    Initiated db now serverId read targetNodeId transferId after := by
  simp only [initiate, bind_eq_ok_iff, Db.createTransfer_ok_iff, Db.updateAllocation_ok_iff,
    Db.updateServer_ok_iff] at initiates
  obtain ⟨allocation, admits, _, ⟨alone, unused, rfl⟩, _, ⟨port, held, -, owned, rfl⟩, row, stored,
    ok, rfl⟩ := initiates
  obtain ⟨found, held', onNode, free⟩ := admitOnNode_port admits
  obtain rfl : found = port := Option.mem_unique held' held
  exact ⟨admitOnNode_ok admits, ⟨_, unused, row, ok, _, rfl, rfl, rfl, stored, rfl⟩,
    allocation, found, held, onNode, free, ⟨owned, rfl⟩, _,
    by simp [Db.setServer, Db.setAllocation], alone, rfl⟩

/-- A status write that keeps what a transfer is about. -/
structure ServerTransfer.Restatus (status : TransferStatus) (g : ServerTransfer → ServerTransfer) :
    Prop where
  serverId : ∀ t, (g t).serverId = t.serverId
  targetNodeId : ∀ t, (g t).targetNodeId = t.targetNodeId
  status : ∀ t, (g t).status = status

theorem setTransferStatus_ok {status : TransferStatus} {startedAt : Option Time}
    (sets : setTransferStatus db transferId status startedAt = .ok after) :
    ∃ t g, db.transfers.get? transferId = some t ∧
      after = { db with transfers := db.transfers.modify transferId g } ∧
      ServerTransfer.Restatus status g := by
  obtain ⟨t, stored, -, rfl⟩ := Db.updateTransfer_ok_iff.mp sets
  exact ⟨t, (·.staged status startedAt), stored, rfl, fun _ => rfl, fun _ => rfl, fun _ => rfl⟩

structure Ended (db : Db) (transferId : TransferId) (t : ServerTransfer) (f : Server → Server)
    (status : TransferStatus) (after : Db) : Prop where
  stored : db.transfers.get? transferId = some t
  rows : ∃ (row : ServerRow) (ok : (f row.val).Checked)
    (allocations : Table AllocationId AllocationRow) (g : ServerTransfer → ServerTransfer),
    db.servers.get? t.serverId = some row ∧ after = { db with
        allocations
        servers := db.servers.modify t.serverId fun _ => ⟨f row.val, ok⟩
        transfers := db.transfers.modify transferId g } ∧
      ServerTransfer.Restatus status g

variable {message : String}

/--
A failed transfer sends its server back to `ready` where it is, and frees the port it had reserved,
whoever holds it by then.
-/
theorem failTransfer_ok (fails : failTransfer db now transferId message = .ok after) :
    ∃ t, Ended db transferId t (fun s => { s with status := .ready }) .failed after ∧
      after.transfers = db.transfers.modify transferId (·.failedWith now message) ∧
      ∀ id, (after.allocations.get? id).map Subtype.val =
        if t.targetAllocationId = some id then (db.allocations.get? id).map
          fun port => { port.val with serverId := none, isPrimary := false }
        else (db.allocations.get? id).map Subtype.val := by
  unfold failTransfer at fails
  cases stored : db.transfers.get? transferId with
  | none => simp [stored] at fails
  | some t =>
    simp only [stored, bind_eq_ok_iff, Db.updateTransfer_ok_iff] at fails
    obtain ⟨_, ⟨-, -, -, rfl⟩, fails⟩ := fails
    split at fails
    · rename_i allocation reserved
      simp only [bind_eq_ok_iff, Db.updateAllocation_ok_iff, Db.updateServer_ok_iff] at fails
      obtain ⟨_, ⟨port, held, -, freed, rfl⟩, row, found, ok, rfl⟩ := fails
      refine ⟨t, ⟨stored, row, ok, _, _, found, rfl, fun _ => rfl, fun _ => rfl, fun _ => rfl⟩, rfl,
        fun id => ?_⟩
      by_cases same : id = allocation
      · subst same
        have held' : db.allocations.get? id = some port := held
        simp [reserved, Db.setServer, Db.setAllocation, held']
      · simp [reserved, Db.setServer, Db.setAllocation, same, Ne.symm same]
    · rename_i unreserved
      simp only [ok_bind, Db.updateServer_ok_iff] at fails
      obtain ⟨row, found, ok, rfl⟩ := fails
      exact ⟨t, ⟨stored, row, ok, _, _, found, rfl, fun _ => rfl, fun _ => rfl, fun _ => rfl⟩, rfl,
        fun id => by simp [unreserved, Db.setServer]⟩

variable {t : ServerTransfer}

/--
A completed transfer moves its server, frees the ports on the source and makes the reserved one the
primary.
-/
theorem completeTransfer_ok (stored : db.transfers.get? transferId = some t)
    (completes : completeTransfer db now transferId t = .ok after) :
    Ended db transferId t (·.movedTo t) .success after ∧
      after.transfers = db.transfers.modify transferId (·.succeeded now) ∧
      ((t.targetAllocationId = none ∧
          after.allocations = (freeAllocations db t.serverId t.sourceNodeId).allocations) ∨
        ∃ id port, t.targetAllocationId = some id ∧
          (freeAllocations db t.serverId t.sourceNodeId).allocations.get? id = some port ∧
          (freeAllocations db t.serverId t.sourceNodeId).primaryFree id
            { port.val with isPrimary := true } ∧
          ∃ owned : Allocation.Checked { port.val with isPrimary := true },
            after.allocations = (freeAllocations db t.serverId t.sourceNodeId).allocations.modify id
              fun _ => ⟨_, owned⟩) := by
  simp only [completeTransfer] at completes
  split at completes
  · rename_i id reserved
    simp only [bind_eq_ok_iff, Db.updateAllocation_ok_iff, Db.updateServer_ok_iff,
      Db.updateTransfer_ok_iff] at completes
    obtain ⟨_, ⟨port, held, free, owned, rfl⟩, _, ⟨row, found, ok, rfl⟩, _, -, -, rfl⟩ := completes
    exact ⟨⟨stored, row, ok, _, _, found, rfl, fun _ => rfl, fun _ => rfl, fun _ => rfl⟩, rfl,
      .inr ⟨id, port, reserved, held, free, owned, rfl⟩⟩
  · rename_i unreserved
    simp only [ok_bind, bind_eq_ok_iff, Db.updateServer_ok_iff, Db.updateTransfer_ok_iff]
      at completes
    obtain ⟨_, ⟨row, found, ok, rfl⟩, _, -, -, rfl⟩ := completes
    exact ⟨⟨stored, row, ok, _, _, found, rfl, fun _ => rfl, fun _ => rfl, fun _ => rfl⟩, rfl,
      .inl ⟨unreserved, rfl⟩⟩

/-- An agent's report ends the transfer one way or the other, whatever its status was. -/
theorem handleResult_ok {nodeId : NodeId} {successful : Bool} {error : Option String}
    (handles : handleResult db now nodeId transferId successful error = .ok after) :
    ∃ t f status, (if successful then f = Server.movedTo t ∧ status = .success
      else f = (fun s => { s with status := .ready }) ∧ status = .failed) ∧
      Ended db transferId t f status after := by
  unfold handleResult at handles
  split at handles
  · cases handles
  · rename_i t stored
    split at handles
    · cases handles
    · split at handles
      · rename_i successful
        exact ⟨t, _, _, by simp [successful], (completeTransfer_ok stored handles).1⟩
      · rename_i unsuccessful
        obtain ⟨t, ended, -⟩ := failTransfer_ok handles
        exact ⟨t, _, _, by simp [unsuccessful], ended⟩

end PxHost
