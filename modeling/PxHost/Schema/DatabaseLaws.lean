import PxHost.Schema.Database

/-! What each database statement did when it was not refused. -/

namespace PxHost.Db

open Store

variable {db after : Db} {id : SubscriptionId}

theorem updateSubscription_ok_iff {f : Subscription → Subscription} :
    db.updateSubscription id f = .ok after ↔
      (∃ s, db.subscriptions.get? id = some s) ∧
        after = { db with subscriptions := db.subscriptions.modify id f } := by
  unfold updateSubscription
  cases db.subscriptions.get? id <;> simp [eq_comm]

theorem updateOrder_ok_iff {id : OrderId} {f : Order → Order} :
    db.updateOrder id f = .ok after ↔
      (∃ o, db.orders.get? id = some o) ∧
        after = { db with orders := db.orders.modify id f } := by
  unfold updateOrder
  cases db.orders.get? id <;> simp [eq_comm]

theorem updatePlan_ok_iff {id : PlanId} {f : Plan → Plan} :
    db.updatePlan id f = .ok after ↔
      (∃ p, db.plans.get? id = some p) ∧
        after = { db with plans := db.plans.modify id f } := by
  unfold updatePlan
  cases db.plans.get? id <;> simp [eq_comm]

theorem updateServer_ok_iff {id : ServerId} {f : Server → Server} :
    db.updateServer id f = .ok after ↔
      ∃ row, db.servers.get? id = some row ∧
        ∃ ok : (f row.val).Checked, after = db.setServer id ⟨f row.val, ok⟩ := by
  unfold updateServer
  cases db.servers.get? id with
  | none => simp
  | some row =>
    by_cases ok : (f row.val).Checked
    · simp [ok, eq_comm]
    · simp [ok]

theorem updateAllocation_ok_iff {id : AllocationId} {f : Allocation → Allocation} :
    db.updateAllocation id f = .ok after ↔
      ∃ row, db.allocations.get? id = some row ∧ db.primaryFree id (f row.val) ∧
        ∃ ok : (f row.val).Checked, after = db.setAllocation id ⟨f row.val, ok⟩ := by
  unfold updateAllocation
  cases db.allocations.get? id with
  | none => simp
  | some row =>
    by_cases ok : (f row.val).Checked
    · by_cases free : db.primaryFree id (f row.val)
      · simp only [ok, free, dite_true, if_true, Except.ok.injEq, Option.some.injEq,
          exists_eq_left', true_and, exists_true_left]
        exact eq_comm
      · simp [ok, free]
    · simp [ok]

theorem updateTransfer_ok_iff {id : TransferId} {f : ServerTransfer → ServerTransfer} :
    db.updateTransfer id f = .ok after ↔
      ∃ t, db.transfers.get? id = some t ∧ db.transferFree id (f t) ∧
        after = { db with transfers := db.transfers.modify id f } := by
  unfold updateTransfer
  cases db.transfers.get? id with
  | none => simp
  | some t =>
    by_cases free : db.transferFree id (f t)
    · simp only [free, if_true, Except.ok.injEq, Option.some.injEq, exists_eq_left', true_and]
      exact eq_comm
    · simp [free]

theorem createTransfer_ok_iff {id : TransferId} {t : ServerTransfer} :
    db.createTransfer id t = .ok after ↔
      db.transferFree id t ∧ ∃ fresh : db.transfers.get? id = none,
        after = { db with transfers := db.transfers.add id t fresh } := by
  unfold createTransfer Table.insert?
  by_cases fresh : db.transfers.get? id = none
  · cases db.transferFree id t <;> simp [fresh, eq_comm]
  · cases db.transferFree id t <;> simp [fresh]

theorem createSubscription_ok_iff {s : Subscription} :
    db.createSubscription id s = .ok after ↔
      ∃ fresh : db.subscriptions.get? id = none,
        after = { db with subscriptions := db.subscriptions.add id s fresh } := by
  unfold createSubscription Table.insert?
  by_cases fresh : db.subscriptions.get? id = none <;> simp [fresh, eq_comm]

theorem createOrder_ok_iff {id : OrderId} {o : Order} :
    db.createOrder id o = .ok after ↔
      db.orders.find? (fun _ other => other.externalReference == o.externalReference) = none ∧
        ∃ fresh : db.orders.get? id = none,
          after = { db with orders := db.orders.add id o fresh } := by
  unfold createOrder Table.insert?
  cases db.orders.find? fun _ other => other.externalReference == o.externalReference with
  | some found => simp
  | none => by_cases fresh : db.orders.get? id = none <;> simp [fresh, eq_comm]

theorem createServer_ok_iff {id : ServerId} {s : Server} :
    db.createServer id s = .ok after ↔
      ∃ (ok : s.Checked) (fresh : db.servers.get? id = none),
        after = { db with servers := db.servers.add id ⟨s, ok⟩ fresh } := by
  unfold createServer Table.insert?
  by_cases ok : s.Checked
  · by_cases fresh : db.servers.get? id = none <;> simp [ok, fresh, eq_comm]
  · simp [ok]

end PxHost.Db
