import PxHost.Payments.Orders
import PxHost.Servers.Service

/-! What a re-fetched payment or preapproval does to orders, subscriptions and servers. -/

namespace PxHost

/-- A payment reaches a subscription through its preapproval or through an order's reference. -/
def findSubscriptionForPayment (db : Db) (payment : GatewayPayment)
    (provider : PaymentProviderName) : Option SubscriptionId :=
  match truthy payment.subscriptionExternalId with
  | some externalId => (db.subscriptions.find? fun _ s =>
      s.externalSubscriptionId == some externalId && s.paymentProvider == provider).map Prod.fst
  | none => do
    let reference ← truthy payment.externalReference
    let (_, order) ← db.orders.find? fun _ o =>
      o.externalReference == reference && o.provider == provider
    let id ← order.subscriptionId
    (db.subscriptions.get? id).map fun _ => id

/-- The order whose reference a payment echoes, whatever its provider or subscription. -/
def referencedOrder (db : Db) (payment : GatewayPayment) : Option (OrderId × Order) := do
  let reference ← truthy payment.externalReference
  db.orders.find? fun _ o => o.externalReference == reference

/-- The first order of a subscription, as long as no charge was ever recorded for it. -/
def untouchedInitialOrder (db : Db) (subscriptionId : SubscriptionId) :
    Option (OrderId × Order) :=
  (db.orders.find? fun _ o =>
    o.subscriptionId == some subscriptionId && o.kind == .planInitial
      && o.status == .pending).filter fun found =>
    (db.payments.find? fun _ p => p.orderId == found.1).isNone

/-- The order opened for a recurring charge the provider scheduled on its own. -/
def recurringOrder (subscriptionId : SubscriptionId) (s : Subscription) (payment : GatewayPayment)
    (provider : PaymentProviderName) (reference : String) : Order where
  externalReference := reference
  userId := s.userId
  planId := s.planId
  subscriptionId := some subscriptionId
  kind := .planRenewal
  amountCents := payment.amountCents.getD s.priceCents
  currency := s.currency
  status := .pending
  provider := provider
  provisioningStatus := .notRequired

/-- Four rules in order of certainty: known charge, echoed reference, first order, new renewal. -/
def findOrCreateOrderForPayment (db : Db) (subscriptionId : SubscriptionId) (s : Subscription)
    (payment : GatewayPayment) (provider : PaymentProviderName) (fresh : FreshOrder) :
    Except ApiError (Db × Option (OrderId × Order)) :=
  match db.payments.get? payment.id with
  | some existing =>
    .ok (db, (db.orders.get? existing.orderId).map fun order => (existing.orderId, order))
  | none =>
    match referencedOrder db payment <|> untouchedInitialOrder db subscriptionId with
    | some found => .ok (db, some found)
    | none => do
      let order := recurringOrder subscriptionId s payment provider fresh.externalReference
      let db ← db.createOrder fresh.id order
      return (db, some (fresh.id, order))

def Order.paid (now : Time) (s : Subscription) (payment : GatewayPayment) (o : Order) : Order :=
  { o with
    status := .paid
    paidAt := some (payment.approvedAt.getD now)
    paymentMethod := s.paymentMethod
    paidAmountCents := payment.paidAmountCents <|> payment.amountCents }

/-- A first payment starts the subscription; only a card renews by itself. -/
def activate (db : Db) (now : Time) (subscriptionId : SubscriptionId) (s : Subscription)
    (orderId : OrderId) : Except ApiError Db := do
  let db ← applyTransition db now subscriptionId .active none (some "payment webhook: confirmed")
  let db ← db.updateSubscription subscriptionId
    fun row => { row with autoRenew := s.paymentMethod == some .card }
  return db.record (.subscriptionActivated subscriptionId orderId)

/-- A lapsed subscription that pays again gets back only what billing itself had suspended. -/
def recover (db : Db) (now : Time) (subscriptionId : SubscriptionId) (s : Subscription)
    (orderId : OrderId) : Except ApiError Db := do
  let db ← applyTransition db now subscriptionId .active none
    (some "payment webhook: confirmed (recovered)")
  let db := db.record (.subscriptionReactivated subscriptionId orderId)
  if s.status ≠ .suspended then return db
  else match s.serverId with
    | none => return db
    | some serverId =>
      let (db, reactivated) ← unsuspend db serverId (some .billing)
      return if reactivated then db.record (.serverReactivated serverId) else db

/-- What a confirmed payment does to its subscription, by the kind of order it settles. -/
def restoreService (db : Db) (now : Time) (subscriptionId : SubscriptionId) (s : Subscription)
    (orderId : OrderId) (order : Order) : Except ApiError Db :=
  if order.kind = .planRenewal then do
    let db ← applyRenewal db now subscriptionId none
    return db.record (.subscriptionRenewed subscriptionId orderId)
  else if s.status = .pending then activate db now subscriptionId s orderId
  else if s.status = .pastDue ∨ s.status = .suspended then
    recover db now subscriptionId s orderId
  else .ok db

/-- A confirmed payment of the exact amount settles its order and asks for its server. -/
def confirmOrder (db : Db) (now : Time) (subscriptionId : SubscriptionId) (s : Subscription)
    (payment : GatewayPayment) (orderId : OrderId) (order : Order) :
    Except ApiError (Db × Option OrderId) :=
  if payment.amountCents ≠ some order.amountCents then
    .ok (db.record (.amountMismatch orderId order.amountCents payment.amountCents payment.id),
      none)
  else do
    let db := recordFromGateway db orderId payment
    let db ← db.updateOrder orderId (·.paid now s payment)
    let db := db.record (.paymentApproved orderId payment.id)
    let db ← restoreService db now subscriptionId s orderId order
    -- The status of the subscription plays no part in the decision to provision.
    return (db, if order.provisioningStatus = .pending then some orderId else none)

/-- Move a subscription when the state machine allows it, and leave it alone otherwise. -/
def transitionIfAllowed (db : Db) (now : Time) (id : SubscriptionId) (s : Subscription)
    (target : SubscriptionStatus) (reason : String) : Except ApiError Db :=
  if canTransition s.status target then applyTransition db now id target none (some reason)
  else .ok db

/-- The money went back: the order is refunded and its server stops. -/
def refundOrder (db : Db) (now : Time) (subscriptionId : SubscriptionId) (s : Subscription)
    (event : InternalPaymentEvent) (payment : GatewayPayment) (orderId : OrderId) :
    Except ApiError (Db × Option OrderId) := do
  let db := recordFromGateway db orderId payment
  let db ← db.updateOrder orderId fun o => { o with status := .refunded }
  let db ← transitionIfAllowed db now subscriptionId s .suspended s!"payment webhook: {event.text}"
  let db := db.record (.paymentRefunded orderId payment.id)
  match s.serverId with
  | none => return (db, none)
  | some serverId =>
    let what := if event = .paymentChargeback then "chargeback" else "payment refunded"
    -- A server that cannot be suspended never undoes the refund.
    match suspend db now serverId s!"billing: {what}" .billing with
    | .ok suspended => return (suspended, none)
    | .error _ => return (db, none)

def cancelOrder (db : Db) (orderId : OrderId) (order : Order) :
    Except ApiError (Db × Option OrderId) := do
  if order.status = .pending then
    let db ← db.updateOrder orderId fun o => { o with status := .cancelled }
    return (db, none)
  else return (db, none)

/-- A rejected charge fails a pending order; on a renewal it is also delinquency. -/
def rejectOrder (db : Db) (now : Time) (subscriptionId : SubscriptionId) (s : Subscription)
    (payment : GatewayPayment) (orderId : OrderId) (order : Order) :
    Except ApiError (Db × Option OrderId) := do
  let db := recordFromGateway db orderId payment
  let db ← if order.status = .pending then
      db.updateOrder orderId fun o => { o with status := .failed }
    else .ok db
  let db := db.record (.paymentRejected orderId payment.id)
  let db ← if order.kind = .planRenewal then
      transitionIfAllowed db now subscriptionId s .pastDue
        "payment webhook: renewal charge rejected"
    else .ok db
  return (db, none)

def settleOrder (db : Db) (now : Time) (subscriptionId : SubscriptionId) (s : Subscription)
    (event : InternalPaymentEvent) (payment : GatewayPayment) (orderId : OrderId) (order : Order) :
    Except ApiError (Db × Option OrderId) :=
  if order.status = .refunded ∨ order.status = .cancelled then .ok (db, none)
  else if order.status = .paid ∧ event ≠ .paymentRefunded ∧ event ≠ .paymentChargeback then
    -- The guard a retried or redelivered notification comes back through.
    .ok (recordFromGateway db orderId payment, none)
  else match event with
    | .paymentPending => .ok (recordFromGateway db orderId payment, none)
    | .paymentConfirmed => confirmOrder db now subscriptionId s payment orderId order
    | .paymentRefunded => refundOrder db now subscriptionId s event payment orderId
    | .paymentChargeback => refundOrder db now subscriptionId s event payment orderId
    | .paymentCanceled => cancelOrder db orderId order
    | .paymentFailed => rejectOrder db now subscriptionId s payment orderId order
    | _ => .ok (db, none)

/-- The webhook transaction; it answers with the order to provision, if any. -/
def applyPaymentOutcome (db : Db) (now : Time) (subscriptionId : SubscriptionId)
    (event : InternalPaymentEvent) (payment : GatewayPayment) (provider : PaymentProviderName)
    (fresh : FreshOrder) : Except ApiError (Db × Option OrderId) := do
  let some s := db.subscriptions.get? subscriptionId | return (db, none)
  let (db, found) ← findOrCreateOrderForPayment db subscriptionId s payment provider fresh
  let some (orderId, order) := found | return (db, none)
  settleOrder db now subscriptionId s event payment orderId order

/-- One notification about a charge, processed from classification to commit. -/
def processPaymentEvent (db : Db) (now : Time) (notification : NotificationId)
    (provider : PaymentProviderName) (payment : GatewayPayment) (fresh : FreshOrder) :
    Except ApiError (Db × Option OrderId) :=
  let event := classifyPayment provider payment
  if event = .ignored then .ok (db, none)
  else match findSubscriptionForPayment db payment provider with
    | none => .ok (db.record (.webhookOrderNotFound notification payment.id), none)
    | some id => applyPaymentOutcome db now id event payment provider fresh

/-- The subscription of a preapproval, remembering the preapproval on it when it was unknown. -/
def findSubscriptionForGateway (db : Db) (externalId : String) (gateway : GatewaySubscription)
    (provider : PaymentProviderName) : Except ApiError (Db × Option SubscriptionId) := do
  let known := (db.subscriptions.find? fun _ s =>
    s.externalSubscriptionId == some externalId && s.paymentProvider == provider).map Prod.fst
  let byReference : Option SubscriptionId := do
    let reference ← truthy gateway.externalReference
    let (_, order) ← db.orders.find? fun _ o =>
      o.externalReference == reference && o.provider == provider
    let id ← order.subscriptionId
    (db.subscriptions.get? id).map fun _ => id
  match known, byReference with
  | some id, _ => return (db, some id)
  | none, none => return (db, none)
  | none, some id =>
    let db ← setExternalSubscriptionId db id externalId
    return (db, some id)

/-- A preapproval event never pays anything: it cancels, marks overdue or moves the due date. -/
def processPreapprovalEvent (db : Db) (now : Time) (externalId : String)
    (gateway : GatewaySubscription) (provider : PaymentProviderName) : Except ApiError Db := do
  let event := classifySubscription provider gateway
  if event ∉ [.subscriptionCanceled, .subscriptionPastDue, .subscriptionSynced] then return db
  else
    let (db, found) ← findSubscriptionForGateway db externalId gateway provider
    let some id := found | return db
    let some s := db.subscriptions.get? id | return db
    match event with
    | .subscriptionCanceled =>
      transitionIfAllowed db now id s .cancelled
        s!"subscription webhook: cancelled at {provider.text}"
    | .subscriptionPastDue =>
      transitionIfAllowed db now id s .pastDue
        s!"subscription webhook: overdue at {provider.text}"
    | _ =>
      if gateway.nextDueDate.isNone ∨ s.status ≠ .active then return db
      else db.updateSubscription id fun row =>
        { row with currentPeriodEndsAt := gateway.nextDueDate }

end PxHost
