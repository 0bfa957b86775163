import PxHost.Capacity.Service
import PxHost.Subscriptions.Status

/-! Creating, moving and renewing subscriptions inside a transaction. -/

namespace PxHost

/-- The plan a customer subscribes to must be public, live and sold on a recurring basis. -/
def lockAndValidatePlanForSubscription (db : Db) (planId : PlanId) :
    Except ApiError (Plan × BillingPeriod) :=
  match db.plans.get? planId with
  | none => .error (.notFound "Plan not found")
  | some plan =>
    if plan.deletedAt.isSome || !plan.isPublic then .error (.notFound "Plan not found")
    else match plan.billingPeriod with
      | none => .error (.conflict
          "PLAN_NOT_SUBSCRIBABLE: this plan is not sold on a recurring basis")
      | some period => .ok (plan, period)

/-- Every billing column but the complement is filled in. -/
def User.billingComplete (u : User) : Bool :=
  [u.cpf, u.billingPostalCode, u.billingAddressLine, u.billingAddressNumber,
    u.billingNeighborhood, u.billingCity, u.billingState].all fun v => v.isSome && v != some ""

def createPendingSubscription (db : Db) (now : Time) (id : SubscriptionId) (userId : UserId)
    (planId : PlanId) (plan : Plan) (period : BillingPeriod) : Except ApiError Db := do
  let some user := db.users.get? userId | .error (.notFound "No User found")
  if !user.billingComplete then
    .error (.conflict
      "BILLING_PROFILE_REQUIRED: complete seus dados de cobrança antes de assinar")
  else
    -- A pending subscription reserves nothing: this only refuses a plan that is full already.
    assertSlots (occupiedSlots db planId) plan.maxSlots
    let db ← db.createSubscription id
      { userId, planId, status := .pending, priceCents := plan.priceCents
        currency := plan.currency, billingPeriod := period }
    return db.createSubscriptionEvent ⟨id, none, .pending, some userId, none, now⟩

/-- The customer's subscription without a checkout. -/
def createForUser (db : Db) (now : Time) (user : UserId) (planId : PlanId) (id : SubscriptionId) :
    Except ApiError Db := do
  let (plan, period) ← lockAndValidatePlanForSubscription db planId
  createPendingSubscription db now id user planId plan period

def Subscription.transitioned (now : Time) (target : SubscriptionStatus) (reason : Option String)
    (s : Subscription) : Subscription :=
  match target with
  | .active =>
    -- The period counts from activation, not from when the row was created.
    { s with
      status := .active
      startedAt := s.startedAt <|> some now
      currentPeriodEndsAt := some (nextPeriodEnd now s.billingPeriod) }
  | .cancelled =>
    { s with status := .cancelled, cancelledAt := some now, cancelReason := reason }
  | other => { s with status := other }

/-- The one gate every status change of the panel, the webhook and the daily job goes through. -/
def applyTransition (db : Db) (now : Time) (id : SubscriptionId) (target : SubscriptionStatus)
    (actorId : Option UserId) (reason : Option String) : Except ApiError Db := do
  let some existing := db.subscriptions.get? id | .error (.notFound "Subscription not found")
  assertTransition existing.status target
  let db ← db.updateSubscription id (·.transitioned now target reason)
  return db.createSubscriptionEvent ⟨id, some existing.status, target, actorId, reason, now⟩

/-- The customer's own cancellation, the only status change they can make. -/
def cancelForUser (db : Db) (now : Time) (userId : UserId) (id : SubscriptionId)
    (reason : Option String) : Except ApiError Db := do
  let some subscription := db.subscriptions.get? id
    | .error (.notFound "Subscription not found")
  if subscription.userId ≠ userId then .error (.notFound "Subscription not found")
  else applyTransition db now id .cancelled (some userId) reason

/-- The administrator's override; it checks the state machine and nothing else. -/
def updateStatusAsAdmin (db : Db) (now : Time) (id : SubscriptionId) (status : SubscriptionStatus)
    (reason : Option String) (actorId : UserId) : Except ApiError Db :=
  applyTransition db now id status (some actorId) reason

/-- A renewal counts from the end of the paid period, or from now when that has passed. -/
def renewalAnchor (now : Time) (s : Subscription) : Time :=
  match s.currentPeriodEndsAt with
  | some periodEnd => if periodEnd > now then periodEnd else now
  | none => now

/-- Only the end of the paid period is written. -/
def Subscription.paidUntil (periodEnd : Time) (s : Subscription) : Subscription :=
  { s with currentPeriodEndsAt := some periodEnd }

def applyRenewal (db : Db) (now : Time) (id : SubscriptionId) (actorId : Option UserId) :
    Except ApiError Db := do
  let some existing := db.subscriptions.get? id | .error (.notFound "Subscription not found")
  let currentPeriodEndsAt := nextPeriodEnd (renewalAnchor now existing) existing.billingPeriod
  -- Only an overdue subscription changes status here; every other one keeps the status it has.
  let db ← if existing.status = .pastDue then
      applyTransition db now id .active actorId (some "payment.webhook: renewal")
    else .ok db
  db.updateSubscription id (·.paidUntil currentPeriodEndsAt)

end PxHost
