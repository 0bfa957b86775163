import PxHost.Capacity.MathLaws
import PxHost.Schema.DatabaseLaws
import PxHost.Servers.Service

/-! What each server operation did when it succeeded. -/

namespace PxHost

open Store Fallible

variable {db after : Db} {id : ServerId} {now : Time}

theorem suspend_ok_iff {reason : String} {source : SuspensionSource} :
    suspend db now id reason source = .ok after ↔
      ∃ row, db.servers.get? id = some row ∧
        ∃ ok : (row.val.suspended now reason source).Checked,
          after = db.setServer id ⟨row.val.suspended now reason source, ok⟩ := by
  unfold suspend Db.server?
  cases found : db.servers.get? id with
  | none => simp
  | some row => simp [Db.updateServer_ok_iff, found]

variable {requireSource : Option SuspensionSource}

/-- Lifting answers `false` and changes nothing when the source is not the required one. -/
theorem unsuspend_ok_iff {lifted : Bool} :
    unsuspend db id requireSource = .ok (after, lifted) ↔
      ∃ row, db.servers.get? id = some row ∧
        if requireSource.isSome ∧ row.val.suspensionSource ≠ requireSource then
          after = db ∧ lifted = false
        else lifted = true ∧ ∃ ok : row.val.unsuspended.Checked,
          after = db.setServer id ⟨row.val.unsuspended, ok⟩ := by
  unfold unsuspend Db.server?
  cases found : db.servers.get? id with
  | none => simp
  | some row =>
    simp only [Option.map_some, Option.some.injEq, exists_eq_left']
    split
    · simp [eq_comm]
    · simp only [bind_eq_ok_iff, Db.updateServer_ok_iff, found, Option.some.injEq,
        exists_eq_left', Pure.pure, Except.pure, Except.ok.injEq, Prod.mk.injEq]
      constructor
      · rintro ⟨_, ⟨ok, rfl⟩, rfl, rfl⟩
        exact ⟨rfl, ok, rfl⟩
      · rintro ⟨rfl, ok, rfl⟩
        exact ⟨_, ⟨ok, rfl⟩, rfl, rfl⟩

theorem unsuspend_ok {lifted : Bool} (lifts : unsuspend db id requireSource = .ok (after, lifted)) :
    after = db ∨ ∃ row, db.servers.get? id = some row ∧
      (requireSource = none ∨ row.val.suspensionSource = requireSource) ∧
      ∃ ok : row.val.unsuspended.Checked, after = db.setServer id ⟨row.val.unsuspended, ok⟩ := by
  obtain ⟨row, stored, lifts⟩ := unsuspend_ok_iff.mp lifts
  split at lifts
  · exact .inl lifts.1
  · rename_i matching
    refine .inr ⟨row, stored, ?_, lifts.2⟩
    cases requireSource with
    | none => exact .inl rfl
    | some source => exact .inr (by simpa using matching)

theorem unsuspended_checked (row : ServerRow) (suspended : row.val.status = .suspended) :
    row.val.unsuspended.Checked := by
  have setup := row.property.setup
  have software := row.property.software
  simp only [suspended, reduceCtorEq, false_iff, false_or] at setup software
  exact ⟨by simp [Server.unsuspended], by simp [Server.unsuspended],
    by simpa [Server.unsuspended] using setup, .inr software⟩

theorem suspended_checked (row : ServerRow) (chosen : row.val.status ≠ .setupPending) (now : Time)
    (reason : String) (source : SuspensionSource) :
    (row.val.suspended now reason source).Checked := by
  have setup := row.property.setup
  have software := row.property.software
  simp only [chosen, false_iff, false_or] at setup software
  exact ⟨by simp [Server.suspended], by simp [Server.suspended],
    by simpa [Server.suspended] using setup, .inr software⟩

theorem unsuspend_billing_succeeds {row : ServerRow} (stored : db.servers.get? id = some row) :
    ∃ after lifted, unsuspend db id (some .billing) = .ok (after, lifted) := by
  by_cases other : row.val.suspensionSource = some .billing
  · have suspended := row.property.source.mpr (by simp [other])
    exact ⟨_, true, unsuspend_ok_iff.mpr ⟨row, stored, by
      simp only [other, ne_eq, not_true_eq_false, and_false, if_false, true_and]
      exact ⟨unsuspended_checked row suspended, rfl⟩⟩⟩
  · exact ⟨db, false, unsuspend_ok_iff.mpr ⟨row, stored, by simp [other]⟩⟩

variable {nodeId : NodeId} {requested : Option AllocationId} {allocation : AllocationId}
  {texts : AdmissionTexts} {request : ResourceRequest}

theorem admitOnNode_ok (admits : admitOnNode texts db now nodeId request requested = .ok allocation) :
    ∃ node, db.nodes.get? nodeId = some node ∧ node.deletedAt.isNone ∧
      Fits (resolveNodeCapacity now node).toNodeCapacityInputs (usageForNode db nodeId) request := by
  unfold admitOnNode at admits
  cases found : (db.nodes.get? nodeId).filter (·.deletedAt.isNone) with
  | none => simp [found] at admits
  | some node =>
    obtain ⟨stored, live⟩ := Option.filter_eq_some_iff.mp found
    simp only [found] at admits
    split at admits
    · cases admits
    · simp only [bind_eq_ok_iff, assertNodeFits_ok_iff] at admits
      obtain ⟨_, fits, -⟩ := admits
      exact ⟨node, stored, live, fits⟩

theorem chooseAllocation_free (chosen : chooseAllocation db nodeId requested = some allocation) :
    ∃ port, db.allocations.get? allocation = some port ∧ port.val.nodeId = nodeId ∧
      port.val.serverId = none := by
  unfold chooseAllocation at chosen
  split at chosen
  · -- The lowest of the listed ids is one of them.
    obtain ⟨⟨_, port⟩, listed, rfl⟩ := List.mem_map.mp (List.min?_mem chosen)
    obtain ⟨stored, free⟩ := Table.mem_filter_iff.mp listed
    exact ⟨port, stored, by simpa using free⟩
  · split at chosen
    · rename_i port stored
      split at chosen
      · rename_i free
        cases chosen
        exact ⟨port, stored, free⟩
      · cases chosen
    · cases chosen

theorem admitOnNode_port
    (admits : admitOnNode texts db now nodeId request requested = .ok allocation) :
    ∃ port, db.allocations.get? allocation = some port ∧ port.val.nodeId = nodeId ∧
      port.val.serverId = none := by
  unfold admitOnNode at admits
  cases found : (db.nodes.get? nodeId).filter (·.deletedAt.isNone) with
  | none => simp [found] at admits
  | some node =>
    simp only [found] at admits
    split at admits
    · cases admits
    · simp only [bind_eq_ok_iff] at admits
      obtain ⟨_, -, chooses⟩ := admits
      split at chooses
      · rename_i chosen
        cases chooses
        exact chooseAllocation_free chosen
      · cases chooses

/-- The subscriptions once a new server has been handed to the one that paid for it. -/
inductive Attached (subscriptions : Table SubscriptionId Subscription) (dto : CreateOnNodeInput)
    (serverId : ServerId) : Table SubscriptionId Subscription → Prop where
  | without (unpaid : dto.attachSubscriptionId = none) :
    Attached subscriptions dto serverId subscriptions
  | attached {id : SubscriptionId} {s : Subscription} (asked : dto.attachSubscriptionId = some id)
      (stored : subscriptions.get? id = some s) (own : s.userId = dto.ownerId)
      (waiting : s.serverId = none) :
    Attached subscriptions dto serverId
      (subscriptions.modify id fun s => { s with serverId := some serverId })

variable {dto : CreateOnNodeInput}

theorem attachSubscription_ok (attaches : attachSubscription db dto id = .ok after) :
    ∃ subscriptions, Attached db.subscriptions dto id subscriptions ∧
      after = { db with subscriptions } := by
  unfold attachSubscription at attaches
  split at attaches
  · rename_i unpaid
    cases attaches
    exact ⟨_, .without unpaid, rfl⟩
  · rename_i asked
    split at attaches
    · cases attaches
    · rename_i s found
      obtain ⟨stored, own⟩ := Option.filter_eq_some_iff.mp found
      split at attaches
      · cases attaches
      · rename_i waiting
        cases attaches
        exact ⟨_, .attached asked stored (by simpa using own) (by simpa using waiting), rfl⟩

/-- What stays true of a new server's row until the end of its transaction. -/
structure Server.IsNew (server : Server) (dto : CreateOnNodeInput) (nodeId : NodeId) (plan : Plan)
    (installs : Bool) : Prop where
  planId : server.planId = some dto.planId
  nodeId : server.nodeId = nodeId
  limits : server.limits = plan.limits
  status : server.status = if installs then .installing else .setupPending

/-- A server is created through every gate, and nothing but its own rows is written. -/
structure Created (db : Db) (now : Time) (dto : CreateOnNodeInput) (nodeId : NodeId)
    (context : Option TemplateContext) (fresh : FreshServer) (plan : Plan) (after : Db) :
    Prop where
  planned : db.plans.get? dto.planId = some plan
  room : ∀ max, plan.maxSlots = some max → occupiedSlots db dto.planId < max
  node : ∃ node, db.nodes.get? nodeId = some node ∧ node.deletedAt.isNone ∧
    Fits (resolveNodeCapacity now node).toNodeCapacityInputs (usageForNode db nodeId)
      plan.limits.request
  rows : ∃ (server : ServerRow) (unused : db.servers.get? fresh.id = none)
    (allocations : Table AllocationId AllocationRow)
    (subscriptions : Table SubscriptionId Subscription),
    server.val.IsNew dto nodeId plan context.isSome ∧
      Attached db.subscriptions dto fresh.id subscriptions ∧ after = { db with
        servers := db.servers.add fresh.id server unused, allocations, subscriptions }
  uid : ∀ row, after.servers.get? fresh.id = some row → row.val.uid = some (nextUid db nodeId)
  port : ∃ id port, db.allocations.get? id = some port ∧ port.val.nodeId = nodeId ∧
    port.val.serverId = none ∧ ∃ owned : Allocation.Checked _,
      after.allocations = db.allocations.modify id fun _ =>
        ⟨{ port.val with serverId := some fresh.id, isPrimary := true }, owned⟩

variable {context : Option TemplateContext}

theorem resolveTemplate_ok (resolves : resolveTemplate db context id = .ok after) :
    after = db ∨ ∃ row, db.servers.get? id = some row ∧ ∃ startupCommand,
      ∃ ok : ({ row.val with startupCommand := some startupCommand } : Server).Checked,
        after = db.setServer id ⟨_, ok⟩ := by
  unfold resolveTemplate at resolves
  split at resolves
  · cases resolves
    exact .inl rfl
  · split at resolves
    · cases resolves
    · obtain ⟨row, stored, ok, rfl⟩ := Db.updateServer_ok_iff.mp resolves
      exact .inr ⟨row, stored, _, ok, rfl⟩

variable {fresh : FreshServer}

theorem createOnNode_ok (creates : createOnNode db now dto nodeId context fresh = .ok after) :
    ∃ plan, Created db now dto nodeId context fresh plan after := by
  unfold createOnNode at creates
  cases found : (db.plans.get? dto.planId).filter (·.deletedAt.isNone) with
  | none => simp [found] at creates
  | some plan =>
    have planned := (Option.filter_eq_some_iff.mp found).1
    simp only [found, bind_eq_ok_iff, assertSlots_ok_iff] at creates
    obtain ⟨_, room, creates⟩ := creates
    split at creates
    · cases creates
    simp only [placeOnNode, bind_eq_ok_iff, Db.createServer_ok_iff, Db.updateAllocation_ok_iff]
      at creates
    obtain ⟨allocation, admits, shortId, -, _, ⟨ok, unused, rfl⟩, _, ⟨port, stored, -, owned, rfl⟩,
      _, attaches, resolves⟩ := creates
    obtain ⟨subscriptions, attached, rfl⟩ := attachSubscription_ok attaches
    have free : port.val.nodeId = nodeId ∧ port.val.serverId = none := by
      obtain ⟨found, held, onNode, free⟩ := admitOnNode_port admits
      obtain rfl : found = port := Option.mem_unique held stored
      exact ⟨onNode, free⟩
    rcases resolveTemplate_ok resolves with rfl | ⟨row, appended, startupCommand, checked, rfl⟩
    · refine ⟨plan, planned, room, admitOnNode_ok admits,
        ⟨_, unused, _, subscriptions, ⟨rfl, rfl, rfl, rfl⟩, attached, rfl⟩, ?_,
        allocation, port, stored, free.1, free.2, owned, rfl⟩
      intro row written
      obtain rfl : ⟨_, ok⟩ = row := by simpa [Db.setAllocation] using written
      rfl
    · -- The row read back for the startup command is the one just appended.
      obtain rfl : ⟨_, ok⟩ = row := by simpa [Db.setAllocation] using appended
      refine ⟨plan, planned, room, admitOnNode_ok admits, ⟨⟨_, checked⟩, unused,
        (db.setAllocation allocation ⟨_, owned⟩).allocations, subscriptions,
        ⟨rfl, rfl, rfl, rfl⟩, attached, ?_⟩, ?_, allocation, port, stored, free.1, free.2, owned, rfl⟩
      · simp [Db.setServer, Db.setAllocation, Table.modify_add]
      · intro row written
        obtain rfl : ⟨_, checked⟩ = row := by simpa [Db.setServer, Db.setAllocation] using written
        rfl

variable {subscription : SubscriptionId} {s : Subscription}

theorem attachSubscription_waiting (asked : dto.attachSubscriptionId = some subscription)
    (stored : db.subscriptions.get? subscription = some s) (own : s.userId = dto.ownerId)
    (waiting : s.serverId = none) :
    attachSubscription db dto id = .ok { db with
      subscriptions := db.subscriptions.modify subscription
        fun s => { s with serverId := some id } } := by
  have found : (db.subscriptions.get? subscription).filter (·.userId == dto.ownerId) = some s := by
    simp [stored, own]
  simp [attachSubscription, asked, found, waiting]

/-- Choosing the software of a server does not depend on who the server is for. -/
theorem resolveTemplate_subscriptions (resolves : resolveTemplate db context id = .ok after)
    (subscriptions : Table SubscriptionId Subscription) :
    ∃ after', resolveTemplate { db with subscriptions } context id = .ok after' := by
  unfold resolveTemplate at resolves ⊢
  split at resolves
  · exact ⟨_, rfl⟩
  · split at resolves
    · cases resolves
    · obtain ⟨row, stored, ok, -⟩ := Db.updateServer_ok_iff.mp resolves
      exact ⟨_, Db.updateServer_ok_iff.mpr ⟨row, stored, ok, rfl⟩⟩

/-- A server that could be created for nobody can be created for a subscription without one. -/
theorem createOnNode_attachable (asked : dto.attachSubscriptionId = some subscription)
    (stored : db.subscriptions.get? subscription = some s) (own : s.userId = dto.ownerId)
    (waiting : s.serverId = none)
    (creates : createOnNode db now { dto with attachSubscriptionId := none } nodeId context fresh =
      .ok after) :
    ∃ after', createOnNode db now dto nodeId context fresh = .ok after' := by
  unfold createOnNode at creates ⊢
  cases found : (db.plans.get? dto.planId).filter (·.deletedAt.isNone) with
  | none => simp [found] at creates
  | some plan =>
    simp only [found, bind_eq_ok_iff, placeOnNode] at creates ⊢
    obtain ⟨_, room, creates⟩ := creates
    split at creates
    · cases creates
    rename_i permitted
    simp only [bind_eq_ok_iff, Db.createServer_ok_iff, Db.updateAllocation_ok_iff] at creates
    obtain ⟨allocation, admits, shortId, drawn, _, ⟨ok, unused, rfl⟩, _, ⟨port, free, ready, owned,
      rfl⟩, _, attaches, resolves⟩ := creates
    cases attaches
    -- The attachment is the only step that looks at the subscriptions.
    obtain ⟨after', resolves'⟩ := resolveTemplate_subscriptions resolves
      (db.subscriptions.modify subscription fun s => { s with serverId := some fresh.id })
    refine ⟨after', (), room, ?_⟩
    rw [if_neg permitted]
    simp only [bind_eq_ok_iff, Db.createServer_ok_iff, Db.updateAllocation_ok_iff]
    exact ⟨allocation, admits, shortId, drawn, _, ⟨ok, unused, rfl⟩, _, ⟨port, free, ready, owned,
      rfl⟩, _, attachSubscription_waiting asked stored own waiting, resolves'⟩

theorem removeServer_ok {removed : ServerId} (removes : removeServer db removed = .ok after) :
    (∃ row, db.servers.get? removed = some row) ∧ after = db.removeServer removed := by
  unfold removeServer Db.server? at removes
  cases found : db.servers.get? removed with
  | none => simp [found] at removes
  | some row =>
    simp only [found, Option.map_some, Except.ok.injEq] at removes
    exact ⟨⟨row, rfl⟩, removes.symm⟩

theorem reportInstallResult_ok {successful : Bool}
    (reports : reportInstallResult db now nodeId id successful = .ok after) :
    ∃ row, db.servers.get? id = some row ∧ ∃ ok : (row.val.reported now successful).Checked,
      after = db.setServer id ⟨row.val.reported now successful, ok⟩ := by
  unfold reportInstallResult at reports
  split at reports
  · cases reports
  · exact Db.updateServer_ok_iff.mp reports

theorem dispatchFailed_ok (fails : dispatchFailed db id = .ok after) :
    ∃ row, db.servers.get? id = some row ∧
      ∃ ok : ({ row.val with status := .installFailed } : Server).Checked,
        after = db.setServer id ⟨_, ok⟩ :=
  Db.updateServer_ok_iff.mp fails

end PxHost
