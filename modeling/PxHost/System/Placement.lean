import Mathlib.Logic.Function.Basic
import PxHost.System.ServerLaws

/-! Where servers are, which ports they hold, and where they are on their way to. -/

namespace PxHost

open Store

/-- What the database says about places: each server's node and user id, the ports, the moves. -/
@[ext] structure Placement where
  place : ServerId → Option (NodeId × Option Nat)
  port : AllocationId → Option Allocation
  transfer : TransferId → Option ServerTransfer

def Server.place (s : Server) : NodeId × Option Nat := (s.nodeId, s.uid)

def Db.placement (db : Db) : Placement where
  place id := (db.server? id).map Server.place
  port id := (db.allocations.get? id).map Subtype.val
  transfer := db.transfers.get?

def Allocation.freed (a : Allocation) : Allocation := { a with serverId := none, isPrimary := false }

namespace Placement

/-- A server is put in a place, whether it had one before or not. -/
def settled (p : Placement) (server : ServerId) (place : NodeId × Option Nat) : Placement :=
  { p with place := Function.update p.place server (some place) }

def assigned (p : Placement) (port : AllocationId) (a : Allocation) : Placement :=
  { p with port := Function.update p.port port (some a) }

def tracked (p : Placement) (id : TransferId) (t : ServerTransfer) : Placement :=
  { p with transfer := Function.update p.transfer id (some t) }

def vacated (p : Placement) (leaves : Allocation → Prop) [DecidablePred leaves] : Placement :=
  { p with port := fun id => (p.port id).map fun a => if leaves a then a.freed else a }

/-- A moved server gives back its ports on the node it comes from. -/
def evacuated (p : Placement) (t : ServerTransfer) : Placement :=
  p.vacated fun a => a.serverId = some t.serverId ∧ a.nodeId = t.sourceNodeId

def released (p : Placement) (reserved : Option AllocationId) : Placement :=
  { p with
    port := fun id => if reserved = some id then (p.port id).map (·.freed) else p.port id }

def forgotten (p : Placement) (server : ServerId) : Placement where
  place := Function.update p.place server none
  port := (p.vacated (·.serverId = some server)).port
  transfer id := (p.transfer id).filter (·.serverId != server)

def Alone (p : Placement) (transfer : TransferId) (server : ServerId) : Prop :=
  ∀ id t, p.transfer id = some t → t.status.isActive → t.serverId = server → id = transfer

def OnlyPrimary (p : Placement) (port : AllocationId) (server : Option ServerId) : Prop :=
  ∀ id a, p.port id = some a → a.isPrimary → a.serverId = server → id = port

end Placement

inductive Tx.GivesUp (transfer : TransferId) (t : ServerTransfer) : Tx → Prop where
  | failed (now : Time) (message : String) : GivesUp transfer t (.failTransfer now transfer message)
  | reported (now : Time) (error : Option String) :
    GivesUp transfer t (.handleResult now t.targetNodeId transfer false error)

open Placement

inductive PlacementMove (db : Db) : Tx → Placement → Prop where
  | kept {tx : Tx} : PlacementMove db tx db.placement
  | created {now : Time} {dto : CreateOnNodeInput} {node : NodeId}
      {context : Option TemplateContext} {fresh : FreshServer} {port : AllocationId}
      {a : Allocation} (unused : db.placement.place fresh.id = none)
      (stored : db.placement.port port = some a) (onNode : a.nodeId = node)
      (free : a.serverId = none) :
    PlacementMove db (.createOnNode now dto node context fresh)
      ((db.placement.settled fresh.id (node, some (nextUid db node))).assigned port
        { a with serverId := some fresh.id, isPrimary := true })
  | removed {server : ServerId} : PlacementMove db (.removeServer server)
      (db.placement.forgotten server)
  | departed {now : Time} {server : ServerId} {read : Server} {target : NodeId}
      {requested : Option AllocationId} {transfer : TransferId} {port : AllocationId}
      {a : Allocation} {t : ServerTransfer} (known : (db.placement.place server).isSome)
      (unused : db.placement.transfer transfer = none)
      (alone : db.placement.Alone transfer server)
      (stored : db.placement.port port = some a) (onNode : a.nodeId = target)
      (free : a.serverId = none) (started : t =
        { serverId := server, sourceNodeId := read.nodeId, targetNodeId := target
          targetAllocationId := some port, targetUid := some (nextUid db target)
          status := .pending }) :
    PlacementMove db (.initiateTransfer now server read target requested transfer)
      ((db.placement.tracked transfer t).assigned port
        { a with serverId := some server, isPrimary := false })
  | staged {transfer : TransferId} {stage : PipelineStage} {startedAt : Option Time}
      {t : ServerTransfer} (stored : db.placement.transfer transfer = some t)
      (alone : db.placement.Alone transfer t.serverId) :
    PlacementMove db (.setTransferStatus transfer stage startedAt)
      (db.placement.tracked transfer (t.staged stage.status startedAt))
  | givenUp {tx : Tx} {now : Time} {message : String} {transfer : TransferId} {t : ServerTransfer}
      (called : tx.GivesUp transfer t) (stored : db.placement.transfer transfer = some t) :
    PlacementMove db tx
      ((db.placement.tracked transfer (t.failedWith now message)).released t.targetAllocationId)
  | arrived {now : Time} {transfer : TransferId} {error : Option String} {t : ServerTransfer}
      {port : AllocationId} {a : Allocation} (stored : db.placement.transfer transfer = some t)
      (known : (db.placement.place t.serverId).isSome) (reserved : t.targetAllocationId = some port)
      (held : (db.placement.evacuated t).port port = some a) (owned : a.serverId.isSome)
      (primary : (db.placement.evacuated t).OnlyPrimary port a.serverId) :
    PlacementMove db (.handleResult now t.targetNodeId transfer true error)
      ((((db.placement.evacuated t).assigned port { a with isPrimary := true }).settled t.serverId
        (t.targetNodeId, t.targetUid)).tracked transfer (t.succeeded now))
  | arrivedPortless {now : Time} {transfer : TransferId} {error : Option String}
      {t : ServerTransfer} (stored : db.placement.transfer transfer = some t)
      (known : (db.placement.place t.serverId).isSome) (unreserved : t.targetAllocationId = none) :
    PlacementMove db (.handleResult now t.targetNodeId transfer true error)
      (((db.placement.evacuated t).settled t.serverId (t.targetNodeId, t.targetUid)).tracked
        transfer (t.succeeded now))

variable {db after : Db} {tx : Tx} {transfer : TransferId} {t : ServerTransfer}

theorem Db.alone_of_transferFree (free : db.transferFree transfer t) (active : t.status.isActive) :
    db.placement.Alone transfer t.serverId := by
  simp only [Db.transferFree, active, Bool.not_true, Bool.false_or, Option.isNone_iff_eq_none]
    at free
  intro id other stored running same
  by_contra different
  simpa [different, running, same] using Table.find?_none free stored

theorem Db.onlyPrimary_of_primaryFree {port : AllocationId} {a : Allocation}
    (free : db.primaryFree port a) (primary : a.isPrimary) :
    db.placement.OnlyPrimary port a.serverId := by
  simp only [Db.primaryFree, primary, Bool.not_true, Bool.false_or, Option.isNone_iff_eq_none]
    at free
  intro id other stored primary' same
  obtain ⟨row, found, rfl⟩ := Option.map_eq_some_iff.mp stored
  by_contra different
  simpa [different, primary', same] using Table.find?_none free found

def Tx.settles : Tx → Bool
  | .createOnNode .. | .handleResult _ _ _ true _ => true
  | _ => false

theorem place_of_servers (spares : tx.removes = none) (stays : tx.settles = false)
    (executed : exec db tx = .ok after) : after.placement.place = db.placement.place := by
  funext id
  have evolves := exec_servers spares executed
  cases stored : db.servers.get? id with
  | none =>
    cases stored' : after.servers.get? id with
    | none => simp [Db.placement, Db.server?, stored, stored']
    | some row =>
      obtain ⟨now, dto, node, context, fresh, called, -⟩ := (evolves.created stored stored').called
      simp [called, Tx.settles] at stays
  | some row =>
    obtain ⟨row', stored', move⟩ := evolves.moved stored
    have same : row'.val.place = row.val.place := by
      generalize row'.val = s' at move
      cases move with
      | moved called => simp [called, Tx.settles] at stays
      | reported =>
        unfold Server.reported
        split <;> rfl
      | _ => rfl
    simp [Db.placement, Db.server?, stored, stored', same]

variable {now : Time}

theorem createOnNode_placement {dto : CreateOnNodeInput} {node : NodeId}
    {context : Option TemplateContext} {fresh : FreshServer}
    (creates : createOnNode db now dto node context fresh = .ok after) :
    PlacementMove db (.createOnNode now dto node context fresh) after.placement := by
  obtain ⟨plan, created⟩ := createOnNode_ok creates
  obtain ⟨server, unused, allocations, subscriptions, new, -, written⟩ := created.rows
  obtain ⟨id, port, stored, onNode, free, owned, ports⟩ := created.port
  have uid := created.uid server (by simp [written])
  have moved : after.placement =
      (db.placement.settled fresh.id (node, some (nextUid db node))).assigned id
        { port.val with serverId := some fresh.id, isPrimary := true } := by
    ext1
    · funext other
      by_cases same : other = fresh.id
      · simp [Db.placement, Db.server?, written, same, settled, assigned, Server.place, new.nodeId,
          uid]
      · simp [Db.placement, Db.server?, written, same, settled, assigned]
    · funext other
      by_cases same : other = id
      · simp [Db.placement, ports, same, settled, assigned, stored]
      · simp [Db.placement, ports, same, settled, assigned]
    · simp [Db.placement, written, settled, assigned]
  rw [moved]
  exact .created (by simp [Db.placement, Db.server?, unused])
    (by simp [Db.placement, stored]) onNode free

variable {server : ServerId}

theorem removeServer_placement (removes : removeServer db server = .ok after) :
    PlacementMove db (.removeServer server) after.placement := by
  obtain ⟨-, rfl⟩ := removeServer_ok removes
  have moved : (db.removeServer server).placement = db.placement.forgotten server := by
    ext1
    · funext other
      by_cases same : other = server
      · simp [Db.placement, Db.server?, Db.removeServer, forgotten, same]
      · simp [Db.placement, Db.server?, Db.removeServer, forgotten, same]
    · funext other
      cases stored : db.allocations.get? other with
      | none => simp [Db.placement, Db.removeServer, forgotten, vacated, stored]
      | some port =>
        by_cases own : port.val.serverId = some server <;>
          simp [Db.placement, Db.removeServer, forgotten, vacated, stored, own, Allocation.freed]
    · funext other
      simp [Db.placement, Db.removeServer, forgotten, bne]
  rw [moved]
  exact .removed

theorem initiate_placement {read : Server} {target : NodeId} {requested : Option AllocationId}
    (initiates : initiate db now server read target requested transfer = .ok after) :
    PlacementMove db (.initiateTransfer now server read target requested transfer)
      after.placement := by
  have initiated := initiate_ok initiates
  obtain ⟨t, unused, row, ok, allocations, -, -, -, found, written⟩ := initiated.rows
  obtain ⟨id, port, stored, onNode, free, ⟨owned, ports⟩, t', recorded, alone, started⟩ :=
    initiated.port
  obtain rfl : t = t' := by simpa [written] using recorded
  have moved : after.placement = (db.placement.tracked transfer t).assigned id
      { port.val with serverId := some server, isPrimary := false } := by
    ext1
    · have executed : exec db (.initiateTransfer now server read target requested transfer) =
          .ok after := initiates
      exact place_of_servers rfl rfl executed
    · funext other
      by_cases same : other = id
      · simp [Db.placement, ports, same, tracked, assigned, stored]
      · simp [Db.placement, ports, same, tracked, assigned]
    · funext other
      by_cases same : other = transfer
      · simp [Db.placement, written, same, tracked, assigned]
      · simp [Db.placement, written, same, tracked, assigned]
  have apart : db.placement.Alone transfer server := by
    have := Db.alone_of_transferFree alone (by rw [started]; rfl)
    rwa [started] at this
  rw [moved]
  exact .departed (by simp [Db.placement, Db.server?, found]) unused apart
    (by simp [Db.placement, stored]) onNode free started

theorem setTransferStatus_placement {stage : PipelineStage} {startedAt : Option Time}
    (sets : setTransferStatus db transfer stage.status startedAt = .ok after) :
    PlacementMove db (.setTransferStatus transfer stage startedAt) after.placement := by
  obtain ⟨t, stored, free, rfl⟩ := Db.updateTransfer_ok_iff.mp sets
  have moved : Db.placement { db with
        transfers := db.transfers.modify transfer (·.staged stage.status startedAt) } =
      db.placement.tracked transfer (t.staged stage.status startedAt) := by
    ext1
    · rfl
    · rfl
    · funext other
      by_cases same : other = transfer
      · simp [Db.placement, same, tracked, stored]
      · simp [Db.placement, same, tracked]
  have active : (t.staged stage.status startedAt).status.isActive := by cases stage <;> rfl
  have alone := Db.alone_of_transferFree free active
  rw [moved]
  exact .staged stored alone

theorem failTransfer_placement {message : String}
    (fails : failTransfer db now transfer message = .ok after)
    (called : ∀ t, db.transfers.get? transfer = some t → tx.GivesUp transfer t) :
    PlacementMove db tx after.placement := by
  obtain ⟨t, ⟨stored, -⟩, transfers, ports⟩ := failTransfer_ok fails
  have moved : after.placement =
      (db.placement.tracked transfer (t.failedWith now message)).released t.targetAllocationId := by
    ext1
    · have executed : exec db (.failTransfer now transfer message) = .ok after := fails
      exact place_of_servers rfl rfl executed
    · funext other
      by_cases reserved : t.targetAllocationId = some other
      · simp [Db.placement, ports, reserved, tracked, released, Allocation.freed]
      · simp [Db.placement, ports, reserved, tracked, released]
    · funext other
      by_cases same : other = transfer
      · simp [Db.placement, transfers, same, tracked, released, stored]
      · simp [Db.placement, transfers, same, tracked, released]
  rw [moved]
  exact .givenUp (called t stored) stored

theorem freeAllocations_port (t : ServerTransfer) :
    (freeAllocations db t.serverId t.sourceNodeId).placement.port =
      (db.placement.evacuated t).port := by
  funext other
  cases stored : db.allocations.get? other with
  | none =>
    simp [Db.placement, freeAllocations, evacuated, vacated, stored]
  | some port =>
    by_cases own : port.val.serverId = some t.serverId ∧ port.val.nodeId = t.sourceNodeId <;>
      simp [Db.placement, freeAllocations, evacuated, vacated, stored, own,
        Allocation.freed]

/-- The server arrives, with or without a port on its new node. -/
theorem completeTransfer_placement {error : Option String}
    (stored : db.transfers.get? transfer = some t)
    (completes : completeTransfer db now transfer t = .ok after) :
    PlacementMove db (.handleResult now t.targetNodeId transfer true error) after.placement := by
  obtain ⟨⟨-, row, ok, _, _, found, written, -⟩, transfers, ports⟩ :=
    completeTransfer_ok stored completes
  have places : after.placement.place =
      Function.update db.placement.place t.serverId (some (t.targetNodeId, t.targetUid)) := by
    funext other
    by_cases same : other = t.serverId
    · simp [Db.placement, Db.server?, written, same, found, Server.place, Server.movedTo]
    · simp [Db.placement, Db.server?, written, same]
  have tracked : after.placement.transfer =
      Function.update db.placement.transfer transfer (some (t.succeeded now)) := by
    funext other
    by_cases same : other = transfer
    · simp [Db.placement, transfers, same, stored]
    · simp [Db.placement, transfers, same]
  have known : (db.placement.place t.serverId).isSome := by simp [Db.placement, Db.server?, found]
  rcases ports with ⟨unreserved, ports⟩ | ⟨id, port, reserved, held, free, owned, ports⟩
  · have moved : after.placement = ((db.placement.evacuated t).settled t.serverId
        (t.targetNodeId, t.targetUid)).tracked transfer (t.succeeded now) := by
      ext1
      · exact places
      · refine Eq.trans ?_ (freeAllocations_port t)
        simp [Db.placement, ports]
      · exact tracked
    rw [moved]
    exact .arrivedPortless stored known unreserved
  · have promoted : after.placement.port = Function.update
        (freeAllocations db t.serverId t.sourceNodeId).placement.port id
        (some { port.val with isPrimary := true }) := by
      funext other
      by_cases same : other = id
      · simp [Db.placement, ports, same, held]
      · simp [Db.placement, ports, same]
    have moved : after.placement = (((db.placement.evacuated t).assigned id
        { port.val with isPrimary := true }).settled t.serverId
          (t.targetNodeId, t.targetUid)).tracked transfer (t.succeeded now) := by
      ext1
      · exact places
      · rw [promoted, freeAllocations_port]
        rfl
      · exact tracked
    have primary := Db.onlyPrimary_of_primaryFree free rfl
    rw [moved]
    refine .arrived stored known reserved ?_ (owned rfl) ?_
    · rw [← freeAllocations_port]
      simp [Db.placement, held]
    · intro other a held' isPrimary same
      rw [← freeAllocations_port] at held'
      exact primary other a held' isPrimary same

/-- Every transaction makes one of the moves of a placement. -/
theorem exec_placement (executed : exec db tx = .ok after) : PlacementMove db tx after.placement := by
  cases tx with
  | createOnNode => exact createOnNode_placement executed
  | removeServer => exact removeServer_placement executed
  | initiateTransfer => exact initiate_placement executed
  | setTransferStatus => exact setTransferStatus_placement executed
  | failTransfer now transfer message =>
    exact failTransfer_placement executed fun _ _ => .failed now message
  | handleResult now node transfer successful error =>
    simp only [exec, handleResult] at executed
    split at executed
    · cases executed
    rename_i t stored
    split at executed
    · cases executed
    rename_i own
    obtain rfl : t.targetNodeId = node := not_not.mp own
    split at executed
    · rename_i successful
      subst successful
      exact completeTransfer_placement stored executed
    · rename_i unsuccessful
      obtain rfl : successful = false := by simpa using unsuccessful
      refine failTransfer_placement executed fun t' stored' => ?_
      obtain rfl : t = t' := Option.mem_unique stored stored'
      exact .reported now error
  | _ =>
    have same : after.placement = db.placement := by
      have fleet := exec_fleet executed
      ext1
      · exact place_of_servers rfl rfl executed
      · simp [Db.placement, fleet.allocations rfl]
      · simp [Db.placement, fleet.transfers rfl]
    rw [same]
    exact .kept

end PxHost
