import PxHost.Lib.Binary64
import PxHost.Schema.Rows

/-! What the payment providers report, normalised into one payment model. -/

namespace PxHost

/-- What a provider's status means to the panel. -/
inductive InternalPaymentEvent where
  | paymentConfirmed | paymentPending | paymentFailed | paymentCanceled | paymentRefunded
  | paymentChargeback | subscriptionSynced | subscriptionPastDue | subscriptionCanceled | ignored
deriving DecidableEq, Repr

def InternalPaymentEvent.text : InternalPaymentEvent → String
  | .paymentConfirmed => "PaymentConfirmed"
  | .paymentPending => "PaymentPending"
  | .paymentFailed => "PaymentFailed"
  | .paymentCanceled => "PaymentCanceled"
  | .paymentRefunded => "PaymentRefunded"
  | .paymentChargeback => "PaymentChargeback"
  | .subscriptionSynced => "SubscriptionSynced"
  | .subscriptionPastDue => "SubscriptionPastDue"
  | .subscriptionCanceled => "SubscriptionCanceled"
  | .ignored => "Ignored"

/-- One charge as re-fetched from its provider. -/
structure GatewayPayment where
  id : PaymentId
  status : String
  statusDetail : Option String := none
  subscriptionExternalId : Option String := none
  externalReference : Option String := none
  amountCents : Option Int := none
  paidAmountCents : Option Int := none
  currency : Option String := none
  paymentMethodId : Option String := none
  paymentTypeId : Option String := none
  installments : Option Int := none
  approvedAt : Option Time := none
deriving DecidableEq

/-- One recurring authorisation as re-fetched from its provider. -/
structure GatewaySubscription where
  id : String
  status : String
  externalReference : Option String := none
  nextDueDate : Option Time := none
deriving DecidableEq

/-- An absent or empty text counts as missing. -/
def truthy (text : Option String) : Option String := text.filter (· != "")

def classifyMercadoPagoPayment (status : String) : InternalPaymentEvent :=
  match status with
  | "approved" => .paymentConfirmed
  | "pending" => .paymentPending
  | "in_process" => .paymentPending
  | "authorized" => .paymentPending
  | "rejected" => .paymentFailed
  | "cancelled" => .paymentCanceled
  | "refunded" => .paymentRefunded
  | "charged_back" => .paymentChargeback
  | "in_mediation" => .paymentChargeback
  | _ => .ignored

/-- An authorised preapproval is not a payment: it only synchronises the next due date. -/
def classifyMercadoPagoPreapproval (status : String) : InternalPaymentEvent :=
  match status with
  | "authorized" => .subscriptionSynced
  | "pending" => .subscriptionSynced
  | "paused" => .subscriptionCanceled
  | "cancelled" => .subscriptionCanceled
  | _ => .ignored

def classifyPagBankPayment (status : String) : InternalPaymentEvent :=
  match status.toUpper with
  | "PAID" | "SUCCESS" => .paymentConfirmed
  | "WAITING" | "IN_ANALYSIS" | "AUTHORIZED" => .paymentPending
  | "DECLINED" | "DENIED" => .paymentFailed
  | "REFUNDED" => .paymentRefunded
  | "CANCELED" | "CANCELLED" => .paymentCanceled
  | _ => .ignored

def classifyPagBankSubscription (status : String) : InternalPaymentEvent :=
  match status.toUpper with
  | "ACTIVE" => .subscriptionSynced
  | "OVERDUE" | "SUSPENDED" => .subscriptionPastDue
  | "CANCELED" | "CANCELLED" | "EXPIRED" => .subscriptionCanceled
  | _ => .ignored

/-- The classification of the provider the registry answers with. -/
def classifyPayment (provider : PaymentProviderName) (payment : GatewayPayment) :
    InternalPaymentEvent :=
  match provider with
  | .mercadopago => classifyMercadoPagoPayment payment.status
  | .pagbank => classifyPagBankPayment payment.status
  -- The registry has no such provider, so no payment of its ever gets here.
  | .asaas => .ignored

def classifySubscription (provider : PaymentProviderName) (subscription : GatewaySubscription) :
    InternalPaymentEvent :=
  match provider with
  | .mercadopago => classifyMercadoPagoPreapproval subscription.status
  | .pagbank => classifyPagBankSubscription subscription.status
  | .asaas => .ignored

/-- A payment resource of Mercado Pago; amounts are in units of the currency. -/
structure MpPayment where
  id : PaymentId
  status : String
  statusDetail : Option String := none
  externalReference : Option String := none
  transactionAmount : Option Rat := none
  totalPaidAmount : Option Rat := none
  currencyId : Option String := none
  paymentMethodId : Option String := none
  paymentTypeId : Option String := none
  installments : Option Int := none
  dateApproved : Option Time := none

/-- The payment inside a recurring charge of Mercado Pago. -/
structure MpInnerPayment where
  id : PaymentId
  status : Option String
  statusDetail : Option String := none

structure MpAuthorizedPayment where
  id : PaymentId
  preapprovalId : Option String
  externalReference : Option String := none
  status : Option String
  transactionAmount : Option Rat := none
  currencyId : Option String := none
  dateCreated : Option Time := none
  payment : Option MpInnerPayment := none

/-- Mercado Pago's decimal amounts in cents. -/
def amountToCents (amount : Rat) : Int := Binary64.roundHalfUp (Binary64.mul amount 100)

def toGatewayPayment (payment : MpPayment) : GatewayPayment where
  id := payment.id
  status := payment.status
  statusDetail := payment.statusDetail
  -- A standalone charge belongs to no preapproval.
  subscriptionExternalId := none
  externalReference := payment.externalReference
  amountCents := payment.transactionAmount.map amountToCents
  paidAmountCents := payment.totalPaidAmount.map amountToCents
  currency := payment.currencyId
  paymentMethodId := payment.paymentMethodId
  paymentTypeId := payment.paymentTypeId
  installments := payment.installments
  approvedAt := payment.dateApproved

/-- The retry cycle of a recurring charge says something about the money only at its end. -/
def mapAuthorizedPaymentStatus : Option String → Option String
  | some "processed" => some "approved"
  | some "cancelled" => some "cancelled"
  | _ => none

def getAuthorizedPayment (authorized : MpAuthorizedPayment) : GatewayPayment :=
  -- The inner payment's own status wins over the retry cycle whenever there is one.
  let status := (authorized.payment.bind (·.status)) <|>
    mapAuthorizedPaymentStatus authorized.status
  { id := (authorized.payment.map (·.id)).getD authorized.id
    status := status.getD "pending"
    statusDetail := authorized.payment.bind (·.statusDetail)
    subscriptionExternalId := authorized.preapprovalId
    externalReference := authorized.externalReference
    amountCents := authorized.transactionAmount.map amountToCents
    paidAmountCents := none
    currency := authorized.currencyId
    paymentMethodId := some "credit_card"
    paymentTypeId := some "credit_card"
    installments := none
    approvedAt := if status = some "approved" then authorized.dateCreated else none }

end PxHost
