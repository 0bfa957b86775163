import PxHost.Lib.TableTotals
import PxHost.System.Links
import PxHost.System.Suspension

/-! The room on the nodes along every run: what reserves it, and what can outgrow it. -/

namespace PxHost

open Store Machine

theorem forall_dimension {P : Dimension → Prop} :
    (∀ d, P d) ↔ P .memory ∧ P .disk ∧ P .cpu := by
  constructor
  · intro all
    exact ⟨all .memory, all .disk, all .cpu⟩
  · rintro ⟨memory, disk, cpu⟩ d
    cases d with
    | memory => exact memory
    | disk => exact disk
    | cpu => exact cpu

instance decidableForallDimension {P : Dimension → Prop} [∀ d, Decidable (P d)] : Decidable (∀ d, P d) :=
  decidable_of_iff _ forall_dimension.symm

/-- No node is asked for more than its ceiling in any dimension. -/
def WithinCapacity (db : Db) : Prop :=
  ∀ row ∈ db.nodes.rows, ∀ d, ∀ ceiling ∈ row.2.ceiling d, (usageIn db row.1 d : Int) ≤ ceiling

instance (db : Db) : Decidable (WithinCapacity db) :=
  inferInstanceAs (Decidable (∀ row ∈ db.nodes.rows, _))

/--
A resize meets only servers on live nodes that are not on their way elsewhere, a transfer reserves
at least what its server takes by then, and a transfer that was given up stays so.
-/
def RespectsCapacity (db : Db) : Tx → Bool
  | .applyToServers _ planId => (db.plans.get? planId).all fun plan =>
    (computeDriftRows db planId plan).all fun row =>
      (db.nodes.get? row.2.val.nodeId).all (·.deletedAt.isNone) &&
        (db.transfers.find? fun _ t => t.status.isActive && t.serverId == row.1).isNone
  | .initiateTransfer _ id read _ _ _ =>
    (db.server? id).all fun s => decide (∀ d, s.size d ≤ read.size d)
  | .setTransferStatus transfer _ _ => (db.transfers.get? transfer).all (·.status.isActive)
  | .handleResult _ _ transfer successful _ =>
    !successful || (db.transfers.get? transfer).all (·.status.isActive)
  | _ => true

def Tx.resizes : Tx → Bool
  | .applyToServers .. => true
  | _ => false

def Tx.relocates : Tx → Bool
  | .handleResult _ _ _ true _ => true
  | _ => false

def Tx.creates : Tx → Bool
  | .createOnNode .. => true
  | _ => false

variable {db after : Db} {tx : Tx} {nodeId : NodeId} {d : Dimension}

def serverLoad (nodeId : NodeId) (d : Dimension) (_ : ServerId) (row : ServerRow) : Nat :=
  row.val.settledOn nodeId d

def transferLoad (db : Db) (nodeId : NodeId) (d : Dimension) (_ : TransferId)
    (t : ServerTransfer) : Nat :=
  t.inFlightTo db nodeId d

theorem usageIn_eq_loads (db : Db) (nodeId : NodeId) (d : Dimension) :
    usageIn db nodeId d =
      db.servers.sum (serverLoad nodeId d) + db.transfers.sum (transferLoad db nodeId d) :=
  rfl

section Moves

variable {id : ServerId} {s s' : Server}

theorem ServerMove.sameLimits (fixed : tx.resizes = false) (move : ServerMove db tx id s s') :
    s'.limits = s.limits := by
  cases move with
  | resized called =>
    subst called
    cases fixed
  | reported =>
    unfold Server.reported
    split <;> rfl
  | _ => rfl

theorem ServerMove.sameNode (fixed : tx.relocates = false) (move : ServerMove db tx id s s') :
    s'.nodeId = s.nodeId := by
  cases move with
  | moved called =>
    subst called
    cases fixed
  | reported =>
    unfold Server.reported
    split <;> rfl
  | _ => rfl

theorem size_congr (same : s'.limits = s.limits) (d : Dimension) : s'.size d = s.size d := by
  cases d <;> simp [Server.size, same]

end Moves

variable {row : ServerRow}

theorem serverLoad_of_running {id : ServerId} (running : row.val.status ≠ .deleting) :
    serverLoad nodeId d id row = if row.val.nodeId = nodeId then row.val.size d else 0 := by
  simp [serverLoad, Server.settledOn, running]

variable {t : ServerTransfer} {id : TransferId}

theorem transferLoad_of_stored (stored : db.servers.get? t.serverId = some row) :
    transferLoad db nodeId d id t =
      if t.targetNodeId = nodeId ∧ t.status.isActive then row.val.size d else 0 := by
  simp [transferLoad, ServerTransfer.inFlightTo, Db.server?, stored]

theorem exec_transferLoad (executed : exec db tx = .ok after) (fixed : tx.resizes = false)
    (known : ∃ row, db.servers.get? t.serverId = some row) (spared : tx.removes ≠ some t.serverId) :
    transferLoad after nodeId d id t = transferLoad db nodeId d id t := by
  obtain ⟨row, stored⟩ := known
  obtain ⟨row', stored', move⟩ := exec_servers_stored executed stored spared
  rw [transferLoad_of_stored stored, transferLoad_of_stored stored',
    size_congr (move.sameLimits fixed)]

variable (nodeId d) in
/-- The servers that stay take no more than before, unless they are resized or relocated. -/
theorem exec_serverLoad_le (linked : Linked db) (executed : exec db tx = .ok after)
    (spares : tx.removes = none) (fixed : tx.resizes = false) (settled : tx.relocates = false)
    (old : tx.creates = false) :
    after.servers.sum (serverLoad nodeId d) ≤ db.servers.sum (serverLoad nodeId d) := by
  refine (exec_servers spares executed).sum_le ?_ ?_
  · intro id row row' stored move
    have running := linked.running stored
    rw [serverLoad_of_running running, serverLoad_of_running (move.running running),
      move.sameNode settled, size_congr (move.sameLimits fixed)]
  · intro id row new
    obtain ⟨now, dto, node, context, fresh, rfl, -⟩ := new.called
    cases old

variable (nodeId d) in
theorem exec_transferLoads (linked : Linked db) (executed : exec db tx = .ok after)
    (fixed : tx.resizes = false) (spares : tx.removes = none) :
    db.transfers.sum (transferLoad after nodeId d) = db.transfers.sum (transferLoad db nodeId d) :=
  Table.sum_congr fun _ _ stored =>
    exec_transferLoad executed fixed (linked.carried stored) (by simp [spares])

/-- A transaction that only changes statuses asks no node for more. -/
theorem exec_usage_le (linked : Linked db) (executed : exec db tx = .ok after)
    (idle : tx.movesTransfers = false) (fixed : tx.resizes = false) (old : tx.creates = false) :
    usageIn after nodeId d ≤ usageIn db nodeId d := by
  have spares : tx.removes = none := by
    cases tx with
    | removeServer => cases idle
    | _ => rfl
  have settled : tx.relocates = false := by
    cases tx with
    | handleResult => cases idle
    | _ => rfl
  have servers := exec_serverLoad_le nodeId d linked executed spares fixed settled old
  have transfers := exec_transferLoads nodeId d linked executed fixed spares
  rw [usageIn_eq_loads, usageIn_eq_loads, (exec_fleet executed).transfers idle]
  omega

theorem request_get (s : Server) (d : Dimension) : s.limits.request.get d = s.size d := by
  cases d <;> rfl

variable {now : Time}

/-- A new server adds its size on the node it is placed on. -/
theorem createOnNode_usage (linked : Linked db) {dto : CreateOnNodeInput} {node : NodeId}
    {context : Option TemplateContext} {fresh : FreshServer}
    (creates : exec db (.createOnNode now dto node context fresh) = .ok after) {plan : Plan}
    (created : Created db now dto node context fresh plan after) :
    (usageIn after nodeId d : Int) =
      usageIn db nodeId d + if node = nodeId then plan.limits.request.get d else 0 := by
  have transfers := exec_transferLoads nodeId d linked creates rfl rfl
  obtain ⟨server, unused, allocations, subscriptions, new, -, written⟩ := created.rows
  have running : server.val.status ≠ .deleting := by
    rw [new.status]
    split <;> exact nofun
  have rows : after.servers = db.servers.add fresh.id server unused := by rw [written]
  have idle : after.transfers = db.transfers := by rw [written]
  rw [usageIn_eq_loads, usageIn_eq_loads, rows, Table.sum_add, idle, transfers,
    serverLoad_of_running running, new.nodeId, ← new.limits, request_get]
  split <;> omega

variable {server : ServerId}

theorem removeServer_usage_le (linked : Linked db)
    (removes : exec db (.removeServer server) = .ok after) :
    usageIn after nodeId d ≤ usageIn db nodeId d := by
  obtain ⟨⟨row, stored⟩, rfl⟩ := removeServer_ok removes
  have servers : (db.removeServer server).servers.sum (serverLoad nodeId d) +
      serverLoad nodeId d server row = db.servers.sum (serverLoad nodeId d) :=
    Table.sum_erase stored (serverLoad nodeId d)
  have remaining : (db.removeServer server).transfers.sum
        (transferLoad (db.removeServer server) nodeId d) =
      (db.removeServer server).transfers.sum (transferLoad db nodeId d) := by
    refine Table.sum_congr fun id t left => ?_
    simp only [Db.removeServer, Table.get?_eraseWhere, Option.filter_eq_some_iff] at left
    have other : t.serverId ≠ server := by simpa using left.2
    exact exec_transferLoad removes rfl (linked.carried left.1)
      (by simpa [Tx.removes] using Ne.symm other)
  have fewer : (db.removeServer server).transfers.sum (transferLoad db nodeId d) ≤
      db.transfers.sum (transferLoad db nodeId d) := Table.sum_eraseWhere_le ..
  rw [usageIn_eq_loads, usageIn_eq_loads]
  omega

section Transfers

variable {now : Time} {transfer : TransferId}

theorem initiateTransfer_usage_le (nodeId : NodeId) (d : Dimension) (linked : Linked db)
    {read : Server} {target : NodeId} {allocation : Option AllocationId}
    (initiates : exec db (.initiateTransfer now server read target allocation transfer) =
      .ok after) :
    ∃ row, db.servers.get? server = some row ∧
      usageIn after nodeId d ≤
        usageIn db nodeId d + if target = nodeId then row.val.size d else 0 := by
  have servers := exec_serverLoad_le nodeId d linked initiates rfl rfl rfl rfl
  have reserved := exec_transferLoads nodeId d linked initiates rfl rfl
  obtain ⟨t, unused, row, ok, allocations, own, heading, pending, stored, written⟩ :=
    (initiate_ok initiates).rows
  refine ⟨row, stored, ?_⟩
  have stored' : db.servers.get? t.serverId = some row := own ▸ stored
  have load : transferLoad after nodeId d transfer t = if target = nodeId then row.val.size d else 0 := by
    rw [exec_transferLoad initiates rfl ⟨row, stored'⟩ (by simp [Tx.removes]),
      transferLoad_of_stored stored', heading, pending]
    simp [TransferStatus.isActive]
  have rows : after.transfers = db.transfers.add transfer t unused := by rw [written]
  rw [usageIn_eq_loads, usageIn_eq_loads, rows, Table.sum_add, load]
  omega

/-- A transfer that is rewritten exchanges what it reserved for what it reserves now. -/
theorem exec_rewritten (nodeId : NodeId) (d : Dimension) (linked : Linked db)
    (executed : exec db tx = .ok after) (fixed : tx.resizes = false) (spares : tx.removes = none)
    {status : TransferStatus} {g : ServerTransfer → ServerTransfer}
    (stored : db.transfers.get? transfer = some t)
    (rows : after.transfers = db.transfers.modify transfer g)
    (restatus : ServerTransfer.Restatus status g) :
    after.transfers.sum (transferLoad after nodeId d) + transferLoad db nodeId d transfer t =
      db.transfers.sum (transferLoad db nodeId d) + transferLoad db nodeId d transfer (g t) := by
  have known := linked.carried stored
  have exchanged := Table.sum_modify stored g (transferLoad after nodeId d)
  have before : transferLoad after nodeId d transfer t = transferLoad db nodeId d transfer t :=
    exec_transferLoad executed fixed known (by simp [spares])
  have rewritten : transferLoad after nodeId d transfer (g t) =
      transferLoad db nodeId d transfer (g t) :=
    exec_transferLoad executed fixed (by rwa [restatus.serverId]) (by simp [spares])
  rw [← rows, before, rewritten, exec_transferLoads nodeId d linked executed fixed spares]
    at exchanged
  exact exchanged

theorem setTransferStatus_usage (linked : Linked db) {stage : PipelineStage}
    {startedAt : Option Time}
    (sets : exec db (.setTransferStatus transfer stage startedAt) = .ok after)
    (current : RespectsCapacity db (.setTransferStatus transfer stage startedAt)) :
    usageIn after nodeId d ≤ usageIn db nodeId d := by
  have servers := exec_serverLoad_le nodeId d linked sets rfl rfl rfl rfl
  obtain ⟨t, g, stored, written, restatus⟩ := setTransferStatus_ok sets
  have rows : after.transfers = db.transfers.modify transfer g := by rw [written]
  have transfers := exec_rewritten nodeId d linked sets rfl rfl stored rows restatus
  have active : t.status.isActive := by simpa [RespectsCapacity, stored] using current
  have same : transferLoad db nodeId d transfer (g t) = transferLoad db nodeId d transfer t := by
    have still : stage.status.isActive := by cases stage <;> rfl
    simp [transferLoad, ServerTransfer.inFlightTo, restatus.serverId, restatus.targetNodeId,
      restatus.status, active, still]
  rw [usageIn_eq_loads, usageIn_eq_loads]
  omega

theorem Ended.usage_le (linked : Linked db) (executed : exec db tx = .ok after)
    (fixed : tx.resizes = false) (spares : tx.removes = none) (settled : tx.relocates = false)
    (old : tx.creates = false) {f : Server → Server} (ended : Ended db transfer t f .failed after) :
    usageIn after nodeId d ≤ usageIn db nodeId d := by
  have servers := exec_serverLoad_le nodeId d linked executed spares fixed settled old
  obtain ⟨row, ok, allocations, g, found, written, restatus⟩ := ended.rows
  have rows : after.transfers = db.transfers.modify transfer g := by rw [written]
  have transfers := exec_rewritten nodeId d linked executed fixed spares ended.stored rows restatus
  have freed : transferLoad db nodeId d transfer (g t) = 0 := by
    simp [transferLoad, ServerTransfer.inFlightTo, restatus.status, TransferStatus.isActive]
  rw [usageIn_eq_loads, usageIn_eq_loads]
  omega

/-- A server that arrives takes what its transfer had reserved for it. -/
theorem Ended.usage_le_of_active (linked : Linked db) (executed : exec db tx = .ok after)
    (fixed : tx.resizes = false) (spares : tx.removes = none) (active : t.status.isActive)
    (ended : Ended db transfer t (·.movedTo t) .success after) :
    usageIn after nodeId d ≤ usageIn db nodeId d := by
  obtain ⟨row, ok, allocations, g, found, written, restatus⟩ := ended.rows
  have rows : after.transfers = db.transfers.modify transfer g := by rw [written]
  have moved : after.servers = db.servers.modify t.serverId fun _ => ⟨row.val.movedTo t, ok⟩ := by
    rw [written]
  have transfers := exec_rewritten nodeId d linked executed fixed spares ended.stored rows restatus
  have servers := Table.sum_modify found (fun _ => ⟨row.val.movedTo t, ok⟩) (serverLoad nodeId d)
  have freed : transferLoad db nodeId d transfer (g t) = 0 := by
    simp [transferLoad, ServerTransfer.inFlightTo, restatus.status, TransferStatus.isActive]
  have taken : serverLoad nodeId d t.serverId ⟨row.val.movedTo t, ok⟩ =
      transferLoad db nodeId d transfer t := by
    rw [serverLoad_of_running (by exact nofun), transferLoad_of_stored found]
    simp only [active, and_true]
    rfl
  rw [usageIn_eq_loads, usageIn_eq_loads, moved]
  omega

end Transfers

section Resize

variable {planId : PlanId} {plan : Plan}

/-- The change a plan brings to a node is the total over its drifted servers settled there. -/
theorem computeNodeDelta_get (db : Db) (planId : PlanId) (plan : Plan) (nodeId : NodeId)
    (d : Dimension) :
    (computeNodeDelta plan (computeDriftRows db planId plan) nodeId).get d =
      db.servers.sum fun _ row =>
        if row.val.nodeId == nodeId && row.val.drifted planId plan.limits then
          plan.limits.request.get d - row.val.limits.request.get d
        else 0 := by
  have delta (amount : Limits → Nat) :
      nodeDelta plan (computeDriftRows db planId plan) nodeId amount =
        db.servers.sum fun _ row =>
          if row.val.nodeId == nodeId && row.val.drifted planId plan.limits then
            (amount plan.limits : Int) - amount row.val.limits
          else 0 := by
    rw [nodeDelta, computeDriftRows, Table.filter, List.filter_filter]
    exact Table.sum_map_filter db.servers
      (fun _ row => row.val.nodeId == nodeId && row.val.drifted planId plan.limits)
      (fun row => (amount plan.limits : Int) - amount row.2.val.limits)
  cases d with
  | memory => exact delta (·.memoryMb)
  | disk => exact delta (·.diskMb)
  | cpu => exact delta (·.cpuLimitPercent)

/-- What the servers take of a node grows by exactly the change the resize announced. -/
theorem resized_serverLoads (db : Db) (planId : PlanId) (plan : Plan) (nodeId : NodeId)
    (d : Dimension) :
    (((db.servers.updateWhere (fun _ s => s.val.drifted planId plan.limits)
        fun s => s.withLimits plan.limits).sum (serverLoad nodeId d) : Nat) : Int) =
      (db.servers.sum (serverLoad nodeId d) : Nat) +
        (computeNodeDelta plan (computeDriftRows db planId plan) nodeId).get d := by
  rw [computeNodeDelta_get, Table.sum_updateWhere, Table.cast_sum, Table.cast_sum,
    ← Table.sum_add_measure]
  refine Table.sum_congr fun id row stored => ?_
  by_cases drifted : row.val.drifted planId plan.limits
  · have running : row.val.status ≠ .deleting := by
      simp only [Server.drifted, Bool.and_eq_true, bne_iff_ne] at drifted
      exact drifted.1.2
    have size : plan.limits.request.get d = (row.withLimits plan.limits).val.size d :=
      request_get (row.withLimits plan.limits).val d
    have settled : (row.withLimits plan.limits).val.nodeId = row.val.nodeId := rfl
    simp only [drifted, if_true, Bool.and_true, beq_iff_eq]
    rw [serverLoad_of_running running, serverLoad_of_running (by exact running), request_get, size,
      settled]
    split <;> omega
  · simp [drifted]

/-- A node without a drifted server is announced no change. -/
theorem computeNodeDelta_eq_zero (d : Dimension)
    (none : ∀ id row, db.servers.get? id = some row → row.val.drifted planId plan.limits →
      row.val.nodeId ≠ nodeId) :
    (computeNodeDelta plan (computeDriftRows db planId plan) nodeId).get d = 0 := by
  rw [computeNodeDelta_get, Table.sum]
  refine List.sum_eq_zero fun change counted => ?_
  obtain ⟨row, member, rfl⟩ := List.mem_map.mp counted
  refine if_neg fun both => ?_
  simp only [Bool.and_eq_true, beq_iff_eq] at both
  exact none row.1 row.2 (Table.get?_eq_some_iff.mpr member) both.2 both.1

variable (nodeId d) in
theorem resized_transferLoads (linked : Linked db)
    (applies : exec db (.applyToServers now planId) = .ok after)
    (grounded : RespectsCapacity db (.applyToServers now planId)) :
    after.transfers.sum (transferLoad after nodeId d) =
      db.transfers.sum (transferLoad db nodeId d) := by
  obtain ⟨plan, planned, -, rfl⟩ := applyToServers_ok applies
  refine Table.sum_congr fun id t stored => ?_
  obtain ⟨row, found⟩ := linked.carried stored
  by_cases drifted : row.val.drifted planId plan.limits
  · -- The server of an active transfer is not among the drifted ones.
    have resting : t.status.isActive = false := by
      have listed : (t.serverId, row) ∈ computeDriftRows db planId plan :=
        Table.mem_filter_iff.mpr ⟨found, drifted⟩
      simp only [RespectsCapacity, planned, Option.all_some, List.all_eq_true, Bool.and_eq_true,
        Option.isNone_iff_eq_none] at grounded
      simpa using Table.find?_none (grounded _ listed).2 stored
    simp [transferLoad, ServerTransfer.inFlightTo, resting]
  · simp [transferLoad, ServerTransfer.inFlightTo, Db.server?, found, drifted]

/-- A resize that every node has room for overcommits none of them. -/
theorem applyToServers_within (linked : Linked db) (within : WithinCapacity db)
    (applies : exec db (.applyToServers now planId) = .ok after)
    (grounded : RespectsCapacity db (.applyToServers now planId)) : WithinCapacity after := by
  rintro ⟨nodeId, node⟩ listed d ceiling bounded
  have transfers := resized_transferLoads nodeId d linked applies grounded
  obtain ⟨plan, planned, fits, written⟩ := applyToServers_ok applies
  have nodes : after.nodes = db.nodes := by rw [written]
  rw [nodes] at listed
  have stored := Table.get?_eq_some_iff.mpr listed
  have servers := resized_serverLoads db planId plan nodeId d
  have rows : after.servers = db.servers.updateWhere
      (fun _ s => s.val.drifted planId plan.limits) fun s => s.withLimits plan.limits := by
    rw [written]
  rw [← rows] at servers
  by_cases resized : ∃ id row, db.servers.get? id = some row ∧
      row.val.drifted planId plan.limits ∧ row.val.nodeId = nodeId
  · have live : node.deletedAt.isNone := by
      obtain ⟨id, row, found, drifted, rfl⟩ := resized
      have member : (id, row) ∈ computeDriftRows db planId plan :=
        Table.mem_filter_iff.mpr ⟨found, drifted⟩
      simp only [RespectsCapacity, planned, Option.all_some, List.all_eq_true, Bool.and_eq_true]
        at grounded
      simpa [stored] using (grounded _ member).1
    have room := fits nodeId node stored live resized d ceiling (by simpa using bounded)
    rw [usageForNode_get, usageIn_eq_loads] at room
    rw [usageIn_eq_loads]
    push_cast at room ⊢
    omega
  · have unchanged := computeNodeDelta_eq_zero d fun id row found drifted here =>
      resized ⟨id, row, found, drifted, here⟩
    have room := within _ listed d ceiling bounded
    rw [usageIn_eq_loads] at room ⊢
    push_cast at room ⊢
    omega

end Resize

theorem WithinCapacity.mono (within : WithinCapacity db) (nodes : after.nodes = db.nodes)
    (less : ∀ nodeId d, usageIn after nodeId d ≤ usageIn db nodeId d) : WithinCapacity after := by
  rintro ⟨nodeId, node⟩ listed d ceiling bounded
  rw [nodes] at listed
  have room := within _ listed d ceiling bounded
  have := less nodeId d
  dsimp only at room ⊢
  omega

theorem WithinCapacity.place (within : WithinCapacity db) (nodes : after.nodes = db.nodes)
    {target : NodeId} {request : ResourceRequest}
    (fitting : ∃ node, db.nodes.get? target = some node ∧ node.deletedAt.isNone ∧
      Fits (resolveNodeCapacity now node).toNodeCapacityInputs (usageForNode db target) request)
    (bounded : ∀ nodeId d, (usageIn after nodeId d : Int) ≤
      usageIn db nodeId d + if target = nodeId then request.get d else 0) :
    WithinCapacity after := by
  rintro ⟨nodeId, node⟩ listed d ceiling limit
  rw [nodes] at listed
  have most := bounded nodeId d
  by_cases own : target = nodeId
  · subst own
    obtain ⟨row, stored, -, fits⟩ := fitting
    obtain rfl : node = row := by
      simpa [stored] using (Table.get?_eq_some_iff.mpr listed).symm
    have room := fits d ceiling (by simpa using limit)
    rw [usageForNode_get] at room
    rw [if_pos rfl] at most
    exact le_trans most room
  · rw [if_neg own, add_zero] at most
    exact le_trans most (within _ listed d ceiling limit)

/-- The nodes whose locks a transaction takes before it adds anything to them. -/
def Tx.locks (db : Db) : Tx → List NodeId
  | .createOnNode _ _ node _ _ => [node]
  | .initiateTransfer _ _ _ target _ _ => [target]
  | .applyToServers _ planId => (db.plans.get? planId).elim [] fun plan =>
    (computeDriftRows db planId plan).map fun row => row.2.val.nodeId
  | _ => []

/-- A resize leaves the servers of an unlocked node as they are. -/
theorem applyToServers_unlocked {planId : PlanId}
    (applies : exec db (.applyToServers now planId) = .ok after)
    (free : nodeId ∉ Tx.locks db (.applyToServers now planId)) (d : Dimension) :
    after.servers.sum (serverLoad nodeId d) = db.servers.sum (serverLoad nodeId d) := by
  obtain ⟨plan, planned, -, rfl⟩ := applyToServers_ok applies
  have servers := resized_serverLoads db planId plan nodeId d
  rw [computeNodeDelta_eq_zero d fun id row stored drifted here => free ?_] at servers
  · exact_mod_cast servers
  · simp only [Tx.locks, planned, Option.elim_some]
    exact List.mem_map.mpr ⟨(id, row), Table.mem_filter_iff.mpr ⟨stored, drifted⟩, here⟩

/-- A node is asked for more only under its lock. -/
theorem exec_usage_le_of_unlocked (linked : Linked db) (respects : RespectsCapacity db tx)
    (executed : exec db tx = .ok after) (free : nodeId ∉ tx.locks db) (d : Dimension) :
    usageIn after nodeId d ≤ usageIn db nodeId d := by
  cases tx with
  | createOnNode now dto node context fresh =>
    obtain ⟨plan, created⟩ := createOnNode_ok executed
    have usage : (usageIn after nodeId d : Int) = _ := createOnNode_usage linked executed created
    rw [if_neg fun own => free (by simp [Tx.locks, own]), add_zero] at usage
    omega
  | removeServer server => exact removeServer_usage_le linked executed
  | initiateTransfer now server read target allocation transfer =>
    obtain ⟨row, stored, most⟩ := initiateTransfer_usage_le nodeId d linked executed
    rwa [if_neg fun own => free (by simp [Tx.locks, own]), add_zero] at most
  | setTransferStatus transfer stage startedAt =>
    exact setTransferStatus_usage linked executed respects
  | failTransfer now transfer message =>
    obtain ⟨t, ended, -⟩ := failTransfer_ok executed
    exact ended.usage_le linked executed rfl rfl rfl rfl
  | handleResult now node transfer successful error =>
    obtain ⟨t, f, status, outcome, ended⟩ := handleResult_ok executed
    cases successful with
    | true =>
      obtain ⟨rfl, rfl⟩ := outcome
      exact ended.usage_le_of_active linked executed rfl rfl
        (by simpa [RespectsCapacity, ended.stored] using respects)
    | false =>
      obtain ⟨rfl, rfl⟩ := outcome
      exact ended.usage_le linked executed rfl rfl rfl rfl
  | applyToServers now planId =>
    rw [usageIn_eq_loads, usageIn_eq_loads, resized_transferLoads nodeId d linked executed respects,
      applyToServers_unlocked executed free]
  | _ => exact exec_usage_le linked executed rfl rfl rfl

theorem exec_within (linked : Linked db) (within : WithinCapacity db)
    (respects : RespectsCapacity db tx) (executed : exec db tx = .ok after) :
    WithinCapacity after := by
  have nodes := (exec_fleet executed).nodes
  cases tx with
  | createOnNode now dto node context fresh =>
    obtain ⟨plan, created⟩ := createOnNode_ok executed
    exact within.place nodes created.node fun _ _ =>
      le_of_eq (createOnNode_usage linked executed created)
  | initiateTransfer now server read target allocation transfer =>
    refine within.place nodes (initiate_ok executed).node fun nodeId d => ?_
    obtain ⟨row, stored, most⟩ := initiateTransfer_usage_le nodeId d linked executed
    have current : row.val.size d ≤ read.size d := by
      simp only [RespectsCapacity, Db.server?, stored, Option.map_some, Option.all_some,
        decide_eq_true_eq] at respects
      exact respects d
    rw [request_get]
    split at most
    · rename_i own
      rw [if_pos own]
      omega
    · rename_i other
      omega
  | applyToServers now planId => exact applyToServers_within linked within executed respects
  | _ =>
    exact within.mono nodes fun _ _ =>
      exec_usage_le_of_unlocked linked respects executed (by simp [Tx.locks]) _

/-- The server starts moving to the small node, which has room for it as it is. -/
def sampleTransfer : List Tx :=
  sampleInstalled ++
    ((run commit samplePanel sampleInstalled).server? 1).toList.map fun read =>
      .initiateTransfer 10 1 read 2 none 1

section Pushing

variable {db : Db} {now : Time} {planId : PlanId} {plan : Plan} {nodeId : NodeId}

/-- What would be on a node with the servers of a plan at its size, and those underway as they are. -/
def plannedUsage (db : Db) (planId : PlanId) (plan : Plan) (nodeId : NodeId) (d : Dimension) : Nat :=
  db.servers.sum (fun _ row =>
      Server.settledOn (if row.val.planId = some planId then { row.val with limits := plan.limits }
        else row.val) nodeId d) +
    db.transfers.sum (transferLoad db nodeId d)

/-- The usage that is counted, with the change that is announced, is the planned one. -/
theorem usage_add_delta (db : Db) (planId : PlanId) (plan : Plan) (nodeId : NodeId) (d : Dimension) :
    (usageIn db nodeId d : Int) +
      (computeNodeDelta plan (computeDriftRows db planId plan) nodeId).get d =
      plannedUsage db planId plan nodeId d := by
  have servers := resized_serverLoads db planId plan nodeId d
  have planned : (db.servers.updateWhere (fun _ s => s.val.drifted planId plan.limits)
        fun s => s.withLimits plan.limits).sum (serverLoad nodeId d) =
      db.servers.sum fun _ row => Server.settledOn (if row.val.planId = some planId then
        { row.val with limits := plan.limits } else row.val) nodeId d := by
    rw [Table.sum_updateWhere]
    refine Table.sum_congr fun id row stored => ?_
    -- A server of the plan has its limits already, is being deleted, or is given them.
    by_cases own : row.val.planId = some planId
    · rw [if_pos own]
      split
      · rfl
      · rename_i settled
        simp only [serverLoad, Server.settledOn]
        refine if_ctx_congr Iff.rfl (fun here => ?_) fun _ => rfl
        have same : row.val.limits = plan.limits := by
          simpa [Server.drifted, own, here.2] using settled
        exact size_congr same d
    · simp [Server.drifted, own, serverLoad]
  rw [usageIn_eq_loads, plannedUsage, ← planned]
  push_cast
  omega

/-- A node is short of nothing exactly if it is gone or fits the change. -/
theorem nodeShortfall_eq_none_iff {rows : List (ServerId × ServerRow)} :
    nodeShortfall db now plan rows nodeId = none ↔
      ∀ node, db.nodes.get? nodeId = some node → node.deletedAt.isNone →
        Fits (resolveNodeCapacity now node).toNodeCapacityInputs (usageForNode db nodeId)
          (computeNodeDelta plan rows nodeId) := by
  unfold nodeShortfall
  split
  · rename_i missing
    simp only [Option.filter_eq_none_iff] at missing
    exact iff_of_true rfl fun node stored live => absurd live (missing node stored)
  · rename_i node found
    obtain ⟨stored, live⟩ := Option.filter_eq_some_iff.mp found
    simp only [stored, Option.some.injEq, forall_eq', live, forall_const, ← nodeFitReasons_eq_nil_iff]
    simp

end Pushing

/--
A plan is pushed to its servers exactly if every live node with a server that differs from it would
be within its ceilings afterwards, whether or not the plan makes its servers smaller; and once it
was pushed no server differs from it any longer.
-/
theorem plan_applies_iff (db : Db) (now : Time) (planId : PlanId) (plan : Plan)
    (stored : (db.plans.get? planId).filter (·.deletedAt.isNone) = some plan) :
    ((∃ after, applyToServers db now planId = .ok after) ↔
      ∀ row ∈ db.nodes.rows, row.2.deletedAt.isNone →
        (computeDriftRows db planId plan).any (·.2.val.nodeId == row.1) →
          ∀ d, ∀ ceiling ∈ row.2.ceiling d, plannedUsage db planId plan row.1 d ≤ ceiling) ∧
      ∀ after, applyToServers db now planId = .ok after →
        after.plans = db.plans ∧ computeDriftRows after planId plan = [] := by
  constructor
  · have quiet : (∃ after, applyToServers db now planId = .ok after) ↔
        ((computeDriftRows db planId plan).map
          fun row => row.2.val.nodeId).dedup.mergeSort.filterMap
            (nodeShortfall db now plan (computeDriftRows db planId plan)) = [] := by
      simp only [applyToServers, stored]
      split
      · rename_i short
        exact iff_of_false (by simp) short
      · rename_i quiet
        exact iff_of_true ⟨_, rfl⟩ (not_not.mp quiet)
    rw [quiet]
    simp only [List.filterMap_eq_nil_iff, List.mem_mergeSort, List.mem_dedup, List.mem_map,
      nodeShortfall_eq_none_iff, Fits, usageForNode_get, usage_add_delta]
    constructor
    · rintro fits ⟨nodeId, node⟩ listed live drifted d ceiling bounded
      obtain ⟨row, member, place⟩ := List.any_eq_true.mp drifted
      exact fits nodeId ⟨row, member, beq_iff_eq.mp place⟩ node (Table.get?_eq_some_iff.mpr listed) live
        d ceiling (by simpa using bounded)
    · rintro within nodeId ⟨row, member, place⟩ node listed live d ceiling bounded
      exact within (nodeId, node) (Table.get?_eq_some_iff.mp listed) live
        (List.any_eq_true.mpr ⟨row, member, beq_iff_eq.mpr place⟩) d ceiling (by simpa using bounded)
  · intro after applies
    obtain ⟨plan', stored', -, rfl⟩ := applyToServers_ok applies
    obtain rfl := Option.mem_unique stored' (Option.filter_eq_some_iff.mp stored).1
    refine ⟨rfl, List.eq_nil_iff_forall_not_mem.mpr ?_⟩
    rintro ⟨id, row⟩ member
    obtain ⟨held, drifted⟩ := Table.mem_filter_iff.mp member
    rw [Table.get?_updateWhere] at held
    obtain ⟨before, -, rfl⟩ := Option.map_eq_some_iff.mp held
    -- A row has the limits of the plan now, or it did not differ from them.
    split at drifted
    · simp [Server.drifted, ServerRow.withLimits] at drifted
    · contradiction

def sampleCut : Plan := { samplePlan with limits := { memoryMb := 1024, diskMb := 10240 } }

/-- A server that is installed on a node of some size, and the plan cut down afterwards. -/
def sampleShrunk (memoryTotalMb : Int) : Db :=
  let db := Machine.run commit samplePanel
    (sampleInstalled ++ [.updatePlan 1 { limits := some sampleCut.limits }])
  { db with nodes := db.nodes.modify 1 fun node => { node with memoryTotalMb } }

/-- The node was made smaller than what is on it, but not smaller than what the plan leaves there. -/
theorem sample_plan_applies :
    (computeDriftRows (sampleShrunk 1500) 1 sampleCut).map Prod.fst = [1] ∧
      (∃ after, applyToServers (sampleShrunk 1500) 13 1 = .ok after) ∧
      ∀ after, applyToServers (sampleShrunk 1500) 13 1 = .ok after →
        after.plans = (sampleShrunk 1500).plans ∧ computeDriftRows after 1 sampleCut = [] := by
  have applies := plan_applies_iff (sampleShrunk 1500) 13 1 sampleCut (by decide +kernel)
  exact ⟨by decide +kernel, applies.1.mpr (by decide +kernel), applies.2⟩

/-- On a node that was made smaller than what is on it, even half the memory is too much. -/
theorem shrunk_plan_is_refused :
    applyToServers (sampleShrunk 1000) 13 1 =
      .error (.planExceedsNodes ["node-a (memory: would be 1024MB, ceiling is 1000MB)"]) := by
  decide +kernel

end PxHost
