import PxHost.Lib.ReadCommitted
import PxHost.System.Frames

/-! The transactions that write a subscription, statement by statement instead of all at once. -/

namespace PxHost.Statements

open ReadCommitted ReadCommitted.Program

/-- A transaction on one subscription, which may also lock a plan. -/
abbrev RowProgram := Program Subscription PlanId Unit

/--
The columns a status change writes on the row it meets. Whatever is computed from the row comes
from the one that was read before.
-/
def written (now : Time) (target : SubscriptionStatus) (reason : Option String)
    (existing row : Subscription) : Subscription :=
  match target with
  | .active =>
    { row with
      status := .active
      startedAt := existing.startedAt <|> some now
      currentPeriodEndsAt := some (nextPeriodEnd now existing.billingPeriod) }
  | .cancelled =>
    { row with status := .cancelled, cancelledAt := some now, cancelReason := reason }
  | other => { row with status := other }

def applyTransition (now : Time) (target : SubscriptionStatus) (reason : Option String) :
    RowProgram := do
  let existing ← read
  ensure (canTransition existing.status target)
  -- The update names the row by its id only.
  let _ ← write (written now target reason existing)

def cancelForUser (now : Time) (userId : UserId) (reason : Option String) : RowProgram := do
  let subscription ← read
  ensure (subscription.userId == userId)
  ensure (canTransition subscription.status .cancelled)
  let _ ← write (written now .cancelled reason subscription)

def updateStatusAsAdmin (now : Time) (status : SubscriptionStatus) (reason : Option String) :
    RowProgram :=
  applyTransition now status reason

def applyRenewal (now : Time) : RowProgram := do
  let existing ← read
  let currentPeriodEndsAt := nextPeriodEnd (renewalAnchor now existing) existing.billingPeriod
  if existing.status = .pastDue then
    applyTransition now .active (some "payment.webhook: renewal")
    let _ ← write (·.paidUntil currentPeriodEndsAt)
  else
    let _ ← write (·.paidUntil currentPeriodEndsAt)

/-- Check the row at hand against the state machine before a transition that reads it again. -/
def transitionIfAllowed (now : Time) (subscription : Subscription) (target : SubscriptionStatus)
    (reason : String) : RowProgram :=
  if canTransition subscription.status target then applyTransition now target (some reason)
  else pure ()

/-- What a confirmed payment does to its subscription, as it was read at first. -/
def restoreService (now : Time) (subscription : Subscription) (order : Order) : RowProgram :=
  if order.kind = .planRenewal then applyRenewal now
  else if subscription.status = .pending then do
    applyTransition now .active (some "payment webhook: confirmed")
    let _ ← write fun row => { row with autoRenew := subscription.paymentMethod == some .card }
  else if subscription.status = .pastDue ∨ subscription.status = .suspended then
    applyTransition now .active (some "payment webhook: confirmed (recovered)")
  else pure ()

def settleOrder (now : Time) (subscription : Subscription) (event : InternalPaymentEvent)
    (payment : GatewayPayment) (order : Order) : RowProgram :=
  if order.status = .refunded ∨ order.status = .cancelled then pure ()
  else if order.status = .paid ∧ event ≠ .paymentRefunded ∧ event ≠ .paymentChargeback then pure ()
  else match event with
    | .paymentConfirmed =>
      if payment.amountCents ≠ some order.amountCents then pure ()
      else restoreService now subscription order
    | .paymentRefunded =>
      transitionIfAllowed now subscription .suspended s!"payment webhook: {event.text}"
    | .paymentChargeback =>
      transitionIfAllowed now subscription .suspended s!"payment webhook: {event.text}"
    | .paymentFailed =>
      if order.kind = .planRenewal then
        transitionIfAllowed now subscription .pastDue "payment webhook: renewal charge rejected"
      else pure ()
    | _ => pure ()

/-- The webhook transaction; the order it is about is found between its statements. -/
def applyPaymentOutcome (now : Time) (planId : PlanId) (event : InternalPaymentEvent)
    (payment : GatewayPayment) (found : Option Order) : RowProgram := do
  acquire planId
  let subscription ← read
  match found with
  | none => pure ()
  | some order => settleOrder now subscription event payment order

/--
The subscription of a preapproval, by the preapproval itself or by the reference of an order.
A preapproval that was unknown is remembered on the row, which the row is answered from.
-/
def findSubscriptionForGateway (externalId : String) (provider : PaymentProviderName)
    (referenced : Bool) : Program Subscription PlanId (Option Subscription) := do
  let known ← read
  if known.externalSubscriptionId = some externalId ∧ known.paymentProvider = provider then
    return some known
  else if referenced then
    let subscription ← read
    if subscription.externalSubscriptionId ≠ some externalId then
      let updated ← write fun row => { row with externalSubscriptionId := some externalId }
      return some updated
    else return some subscription
  else return none

def handlePreapproval (now : Time) (event : InternalPaymentEvent) (gateway : GatewaySubscription)
    (provider : PaymentProviderName) (subscription : Subscription) : RowProgram :=
  match event with
  | .subscriptionCanceled =>
    transitionIfAllowed now subscription .cancelled
      s!"subscription webhook: cancelled at {provider.text}"
  | .subscriptionPastDue =>
    transitionIfAllowed now subscription .pastDue
      s!"subscription webhook: overdue at {provider.text}"
  | _ => do
    if gateway.nextDueDate.isNone ∨ subscription.status ≠ .active then return ()
    else
      let _ ← write fun row => { row with currentPeriodEndsAt := gateway.nextDueDate }

def processPreapprovalEvent (now : Time) (event : InternalPaymentEvent) (externalId : String)
    (gateway : GatewaySubscription) (provider : PaymentProviderName) (referenced : Bool) :
    RowProgram := do
  if event ∉ [.subscriptionCanceled, .subscriptionPastDue, .subscriptionSynced] then return ()
  else
    let some subscription ← findSubscriptionForGateway externalId provider referenced | return ()
    handlePreapproval now event gateway provider subscription

def expireStaleOrder (now : Time) (kind : OrderKind) : RowProgram := do
  let subscription ← read
  if kind = .planInitial then
    transitionIfAllowed now subscription .cancelled
      "billing-cycle: checkout abandoned (order expired)"
  else
    transitionIfAllowed now subscription .pastDue "billing-cycle: renewal charge expired unpaid"

def suspendOverdueSubscription (now : Time) (graceDays : Int) : RowProgram :=
  applyTransition now .suspended
    (some s!"billing-cycle: past_due for more than {graceDays} day(s)")

def finishCancellation (now : Time) (cancelReason : Option String) : RowProgram :=
  applyTransition now .cancelled
    (some (cancelReason.getD "billing-cycle: cancelled at period end"))

/-- The transactions of the panel, the webhook and the daily job on one subscription. -/
inductive RowTx where
  | cancelForUser (now : Time) (userId : UserId) (reason : Option String)
  | updateStatusAsAdmin (now : Time) (status : SubscriptionStatus) (reason : Option String)
  | applyPaymentOutcome (now : Time) (planId : PlanId) (event : InternalPaymentEvent)
      (payment : GatewayPayment) (found : Option Order)
  | preapprovalEvent (now : Time) (event : InternalPaymentEvent) (externalId : String)
      (gateway : GatewaySubscription) (provider : PaymentProviderName) (referenced : Bool)
  | expireStaleOrder (now : Time) (kind : OrderKind)
  | suspendOverdue (now : Time) (graceDays : Int)
  | finishCancellation (now : Time) (cancelReason : Option String)

def RowTx.program : RowTx → RowProgram
  | cancelForUser now userId reason => Statements.cancelForUser now userId reason
  | updateStatusAsAdmin now status reason => Statements.updateStatusAsAdmin now status reason
  | applyPaymentOutcome now planId event payment found =>
    Statements.applyPaymentOutcome now planId event payment found
  | preapprovalEvent now event externalId gateway provider referenced =>
    processPreapprovalEvent now event externalId gateway provider referenced
  | expireStaleOrder now kind => Statements.expireStaleOrder now kind
  | suspendOverdue now graceDays => suspendOverdueSubscription now graceDays
  | finishCancellation now cancelReason => Statements.finishCancellation now cancelReason

end PxHost.Statements
