import PxHost.Payments.Gateway
import PxHost.Subscriptions.Service

/-! Checkout, the charges it starts at a provider, and the renewals the daily job starts. -/

namespace PxHost

open Calendar (dayMs)

/-- The row of a charge seen for the first time. -/
def newPayment (orderId : OrderId) (payment : GatewayPayment) : Payment where
  orderId := orderId
  status := payment.status
  statusDetail := payment.statusDetail
  amountCents := payment.amountCents.getD 0
  paidAmountCents := payment.paidAmountCents
  currency := payment.currency.getD "BRL"
  paymentMethodId := payment.paymentMethodId
  paymentTypeId := payment.paymentTypeId
  installments := payment.installments
  approvedAt := payment.approvedAt

/-- What a later report of the same charge overwrites; the order it belongs to is not part of it. -/
def Payment.updated (payment : GatewayPayment) (p : Payment) : Payment :=
  { p with
    status := payment.status
    statusDetail := payment.statusDetail
    paidAmountCents := payment.paidAmountCents
    installments := payment.installments
    approvedAt := payment.approvedAt }

def recordFromGateway (db : Db) (orderId : OrderId) (payment : GatewayPayment) : Db :=
  { db with
    payments := db.payments.upsert payment.id (newPayment orderId payment)
      (Payment.updated payment) }

structure FreshOrder where
  id : OrderId
  externalReference : String
deriving DecidableEq

structure CreateCheckoutDto where
  planId : PlanId
  paymentMethod : PaymentMethod
  provider : PaymentProviderName := .mercadopago
deriving DecidableEq

/-- How long a checkout stays payable, in minutes; a boleto needs at least three days. -/
def checkoutTtlMinutes (configured : Option Int) (method : PaymentMethod) : Int :=
  let configuredTtl := configured.getD 1440
  if method = .boleto then max configuredTtl (3 * 24 * 60) else configuredTtl

/-- The unfinished checkout of the same customer for the same plan, if it is still payable. -/
def findDuplicateCheckout (db : Db) (now : Time) (userId : UserId) (planId : PlanId) :
    Option (OrderId × Order) :=
  db.orders.find? fun _ o =>
    o.userId == userId && o.planId == planId && o.kind == .planInitial && o.status == .pending
      && o.subscriptionId.isSome && o.expiresAt.any (· > now)

/-- A superseded checkout is cancelled together with its subscription, bypassing the history. -/
def cancelSupersededCheckout (db : Db) (id : OrderId) (duplicate : Order) : Db :=
  let db := { db with orders := db.orders.modify id fun o => { o with status := .cancelled } }
  match duplicate.subscriptionId with
  | none => db
  | some subscriptionId =>
    { db with
      subscriptions := db.subscriptions.modify subscriptionId
        fun s => { s with status := .cancelled } }

def newCheckoutOrder (now : Time) (userId : UserId) (dto : CreateCheckoutDto) (plan : Plan)
    (subscriptionId : SubscriptionId) (reference : String) (ttlMinutes : Int) : Order where
  externalReference := reference
  userId := userId
  planId := dto.planId
  subscriptionId := some subscriptionId
  kind := .planInitial
  amountCents := plan.priceCents
  currency := plan.currency
  status := .pending
  provider := dto.provider
  paymentMethod := some dto.paymentMethod
  provisioningStatus := .pending
  expiresAt := some (now + ttlMinutes * 60000)

/-- What a checkout transaction answers: a resumed order, or a new one to start a charge for. -/
inductive CheckoutResult where
  | reused (order : OrderId)
  | created (order : OrderId) (subscription : SubscriptionId)
deriving DecidableEq

/-- The transaction of a checkout; the charge itself is started after it has committed. -/
def createCheckoutOrder (db : Db) (now : Time) (userId : UserId) (dto : CreateCheckoutDto)
    (subscriptionId : SubscriptionId) (fresh : FreshOrder) (ttlMinutes : Option Int) :
    Except ApiError (Db × CheckoutResult) := do
  let (plan, period) ← lockAndValidatePlanForSubscription db dto.planId
  let start (db : Db) : Except ApiError (Db × CheckoutResult) := do
    let db ← createPendingSubscription db now subscriptionId userId dto.planId plan period
    let db ← db.updateSubscription subscriptionId fun s =>
      { s with paymentMethod := some dto.paymentMethod, paymentProvider := dto.provider }
    let db ← db.createOrder fresh.id (newCheckoutOrder now userId dto plan subscriptionId
      fresh.externalReference (checkoutTtlMinutes ttlMinutes dto.paymentMethod))
    return (db, .created fresh.id subscriptionId)
  match findDuplicateCheckout db now userId dto.planId with
  | none => start db
  | some (id, duplicate) =>
    -- The same method again resumes the checkout; another method replaces it.
    if duplicate.paymentMethod = some dto.paymentMethod ∧ duplicate.provider = dto.provider then
      return (db, .reused id)
    else start (cancelSupersededCheckout db id duplicate)

/-- What a provider returns for the customer to pay with. -/
inductive ChargeDetails where
  | pix (qrCode qrCodeBase64 : String)
  | boleto (digitableLine : Option String) (ticketUrl : String) (expiresAt : Option Time)
deriving DecidableEq

/-- Store what the customer needs in order to pay; a boleto may come back with its own expiry. -/
def presentCharge (db : Db) (orderId : OrderId) (details : ChargeDetails) : Except ApiError Db :=
  db.updateOrder orderId fun o =>
    match details with
    | .pix qrCode qrCodeBase64 =>
      { o with presentation := { o.presentation with
          pixQrCode := some qrCode, pixQrCodeBase64 := some qrCodeBase64 } }
    | .boleto digitableLine ticketUrl expiresAt =>
      { o with
        presentation := { o.presentation with
          boletoDigitableLine := digitableLine, boletoUrl := some ticketUrl }
        expiresAt := expiresAt <|> o.expiresAt }

/-- Store the preapproval of a card subscription; a preapproval belongs to one subscription. -/
def setExternalSubscriptionId (db : Db) (id : SubscriptionId) (externalId : String) :
    Except ApiError Db :=
  match db.subscriptions.find? fun other s =>
      other != id && s.externalSubscriptionId == some externalId with
  | some _ => .error (.constraint "subscriptions_external_subscription_id_key")
  | none => db.updateSubscription id fun s => { s with externalSubscriptionId := some externalId }

def Order.authorizedAt (preapprovalId initPoint : String) (o : Order) : Order :=
  { o with presentation := { o.presentation with
      checkoutUrl := some initPoint, externalPreferenceId := some preapprovalId } }

def authorizeCard (db : Db) (orderId : OrderId) (subscriptionId : SubscriptionId)
    (preapprovalId initPoint : String) : Except ApiError Db := do
  let db ← setExternalSubscriptionId db subscriptionId preapprovalId
  db.updateOrder orderId (·.authorizedAt preapprovalId initPoint)

/-- The handler around a charge: whatever failed, the order is marked failed as it stands. -/
def failCharge (db : Db) (orderId : OrderId) : Except ApiError Db :=
  db.updateOrder orderId fun o => { o with status := .failed }

/-- The provider refuses an expiry more than thirty days out. -/
def clampToMercadoPagoMaxExpiry (now requested : Time) : Time :=
  min requested (now + 29 * dayMs)

/-- A boleto must stay payable for three days. -/
def clampOfflineExpiry (now : Time) (method : PaymentMethod) (requested : Time) : Time :=
  let minimum := if method = .boleto then now + 3 * dayMs else requested
  clampToMercadoPagoMaxExpiry now (max requested minimum)

/-- The order of a charge the platform schedules itself, at the price the customer agreed to. -/
def newRenewalOrder (subscriptionId : SubscriptionId) (s : Subscription) (reference : String)
    (method : PaymentMethod) (expiresAt : Time) : Order where
  externalReference := reference
  userId := s.userId
  planId := s.planId
  subscriptionId := some subscriptionId
  kind := .planRenewal
  amountCents := s.priceCents
  currency := s.currency
  status := .pending
  provider := s.paymentProvider
  paymentMethod := some method
  provisioningStatus := .notRequired
  expiresAt := some expiresAt

/-- The transaction that opens the next cycle's charge, unless one is still open. -/
def createOfflineRenewalCharge (db : Db) (now : Time) (subscriptionId : SubscriptionId)
    (fresh : FreshOrder) (graceDays : Option Int) : Except ApiError (Db × Option OrderId) := do
  let some s := db.subscriptions.get? subscriptionId | return (db, none)
  let some method := s.paymentMethod | return (db, none)
  if method = .card then return (db, none)
  else if (db.orders.find? fun _ o => o.subscriptionId == some subscriptionId
      && o.kind == .planRenewal && o.status == .pending && o.expiresAt.any (· > now)).isSome then
    return (db, none)
  else
    let periodEnd := s.currentPeriodEndsAt.getD now
    let expiresAt := clampOfflineExpiry now method (periodEnd + graceDays.getD 3 * dayMs)
    let db ← db.createOrder fresh.id
      (newRenewalOrder subscriptionId s fresh.externalReference method expiresAt)
    -- The profile is loaded in the same transaction, so a missing user undoes the order.
    let some _ := db.users.get? s.userId | .error (.notFound "No User found")
    return (db, some fresh.id)

/-- Keep a subscription running until the end of its paid period. -/
def cancelAtPeriodEnd (db : Db) (id : SubscriptionId) (reason : Option String) :
    Except ApiError Db :=
  db.updateSubscription id fun s => { s with cancelAtPeriodEnd := true, cancelReason := reason }

/-- An administrator may ask again for the server of a paid order whose provisioning failed. -/
def retryProvisioningAsAdmin (db : Db) (orderId : OrderId) : Except ApiError Unit :=
  match db.orders.get? orderId with
  | none => .error (.notFound "Order not found")
  | some order =>
    if order.status ≠ .paid ∨ order.provisioningStatus ≠ .failed then .error (.conflict
      "ORDER_NOT_RETRYABLE: only a paid order with failed provisioning can be retried")
    else .ok ()

end PxHost
