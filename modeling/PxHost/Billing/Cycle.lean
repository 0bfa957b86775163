import PxHost.Payments.Webhook

/-! The daily job: expiring unpaid orders, suspending debtors, finishing cancellations. -/

namespace PxHost

open Calendar (dayMs)

/-- What the job remembers of an order between listing it and expiring it. -/
structure StaleOrder where
  id : OrderId
  subscriptionId : Option SubscriptionId
  kind : OrderKind
deriving DecidableEq

def listStaleOrders (db : Db) (now : Time) : List StaleOrder :=
  (db.orders.filter fun _ o => o.status == .pending && o.expiresAt.any (· < now)).map
    fun (id, o) => ⟨id, o.subscriptionId, o.kind⟩

/-- Expire a listed order as it stands now, and let its subscription follow. -/
def expireStaleOrder (db : Db) (now : Time) (stale : StaleOrder) : Except ApiError Db := do
  let db ← db.updateOrder stale.id fun o => { o with status := .expired }
  let some subscriptionId := stale.subscriptionId | return db
  let some s := db.subscriptions.get? subscriptionId | return db
  if stale.kind = .planInitial then
    transitionIfAllowed db now subscriptionId s .cancelled
      "billing-cycle: checkout abandoned (order expired)"
  else
    -- An offline renewal that ran out unpaid is the only sign of delinquency there is.
    transitionIfAllowed db now subscriptionId s .pastDue
      "billing-cycle: renewal charge expired unpaid"

/-- What the job remembers of a subscription between listing it and acting on it. -/
structure ListedSubscription where
  id : SubscriptionId
  serverId : Option ServerId
  cancelReason : Option String
deriving DecidableEq

def listPastDue (db : Db) : List ListedSubscription :=
  (db.subscriptions.filter fun _ s => s.status == .pastDue).map
    fun (id, s) => ⟨id, s.serverId, s.cancelReason⟩

def pastGracePeriod (db : Db) (now : Time) (graceDays : Int) (id : SubscriptionId) : Bool :=
  let moves := db.subscriptionEvents.filter fun e =>
    e.subscriptionId == id && e.toStatus == .pastDue
  !moves.isEmpty && moves.all fun e => e.createdAt ≤ now - graceDays * dayMs

def suspendOverdueSubscription (db : Db) (now : Time) (graceDays : Int) (id : SubscriptionId) :
    Except ApiError Db :=
  applyTransition db now id .suspended none
    (some s!"billing-cycle: past_due for more than {graceDays} day(s)")

def listEndedCancellations (db : Db) (now : Time) : List ListedSubscription :=
  (db.subscriptions.filter fun _ s =>
    s.cancelAtPeriodEnd && [.active, .pastDue, .suspended].contains s.status
      && s.currentPeriodEndsAt.any (· ≤ now)).map
    fun (id, s) => ⟨id, s.serverId, s.cancelReason⟩

def finishCancellation (db : Db) (now : Time) (ended : ListedSubscription) :
    Except ApiError Db :=
  applyTransition db now ended.id .cancelled none
    (some (ended.cancelReason.getD "billing-cycle: cancelled at period end"))

end PxHost
