import PxHost.Lib.Calendar

/-! Identifiers, enumerations and error values shared by every service of the panel. -/

namespace PxHost

/-- A point in time, in milliseconds since the epoch. -/
abbrev Time := Calendar.Instant

abbrev UserId := Nat
abbrev PlanId := Nat
abbrev NodeId := Nat
abbrev LocationId := Nat
abbrev ServerId := Nat
abbrev TemplateId := Nat
abbrev AllocationId := Nat
abbrev TransferId := Nat
abbrev SubscriptionId := Nat
abbrev OrderId := Nat
/-- The identifier a payment provider gave to a charge. -/
abbrev PaymentId := String
abbrev NotificationId := String

/-- The subscription lifecycle, in the closed set the table's check allows. -/
inductive SubscriptionStatus where
  | pending | active | pastDue | suspended | cancelled | expired
deriving DecidableEq, Repr

/-- How the status is spelled in the database and in error messages. -/
def SubscriptionStatus.text : SubscriptionStatus → String
  | .pending => "pending"
  | .active => "active"
  | .pastDue => "past_due"
  | .suspended => "suspended"
  | .cancelled => "cancelled"
  | .expired => "expired"

/-- The recurring periods a subscription is priced on. -/
inductive BillingPeriod where
  | monthly | quarterly | semiannual | annual
deriving DecidableEq, Repr

inductive OrderKind where
  | planInitial | planRenewal | addon
deriving DecidableEq, Repr

inductive OrderStatus where
  | pending | paid | failed | cancelled | refunded | expired
deriving DecidableEq, Repr

/-- How the status is spelled in the database and in error messages. -/
def OrderStatus.text : OrderStatus → String
  | .pending => "pending"
  | .paid => "paid"
  | .failed => "failed"
  | .cancelled => "cancelled"
  | .refunded => "refunded"
  | .expired => "expired"

inductive ProvisioningStatus where
  | notRequired | pending | running | done | failed
deriving DecidableEq, Repr

inductive PaymentMethod where
  | pix | boleto | card
deriving DecidableEq, Repr

/-- The payment providers; `asaas` survives on old order rows only. -/
inductive PaymentProviderName where
  | mercadopago | pagbank | asaas
deriving DecidableEq, Repr

/-- How the provider is spelled in the database and in transition reasons. -/
def PaymentProviderName.text : PaymentProviderName → String
  | .mercadopago => "mercadopago"
  | .pagbank => "pagbank"
  | .asaas => "asaas"

/-- The server lifecycle; `deleting` is in the table's check although no service writes it. -/
inductive ServerStatus where
  | setupPending | installing | installFailed | ready | suspended | restoringBackup
  | transferring | deleting
deriving DecidableEq, Repr

/-- How the status is spelled in the database and in error messages. -/
def ServerStatus.text : ServerStatus → String
  | .setupPending => "setup_pending"
  | .installing => "installing"
  | .installFailed => "install_failed"
  | .ready => "ready"
  | .suspended => "suspended"
  | .restoringBackup => "restoring_backup"
  | .transferring => "transferring"
  | .deleting => "deleting"

inductive SuspensionSource where
  | admin | billing
deriving DecidableEq, Repr

inductive TransferStatus where
  | pending | archiving | uploading | restoring | success | failed | cancelled
deriving DecidableEq, Repr

/-- Whether a node's capacity is declared by hand or read from its telemetry. -/
inductive CapacityMode where
  | manual | auto
deriving DecidableEq, Repr

inductive HealthStatus where
  | unknown | online | degraded | offline
deriving DecidableEq, Repr

def HealthStatus.text : HealthStatus → String
  | .unknown => "unknown"
  | .online => "online"
  | .degraded => "degraded"
  | .offline => "offline"

inductive WebhookEventStatus where
  | received | processed | ignored | failed
deriving DecidableEq, Repr

/-- The failures a request can end with, carrying the data their messages are built from. -/
inductive ApiError where
  | notFound (message : String)
  | conflict (message : String)
  | forbidden (message : String)
  | badRequest (message : String)
  | invalidTransition (current target : SubscriptionStatus)
  | noSlots (would max : Nat)
  | noCapacity (label : String) (would : Int) (unit : String) (ceiling : Int)
  | planExceedsNodes (shortfalls : List String)
  | constraint (name : String)
deriving DecidableEq, Repr

def ApiError.message : ApiError → String
  | .notFound text => text
  | .conflict text => text
  | .forbidden text => text
  | .badRequest text => text
  | .invalidTransition current target =>
    s!"INVALID_TRANSITION: subscription is {current.text}, cannot become {target.text}"
  | .noSlots would max => s!"NO_SLOTS: plan would be {would}, max is {max}"
  | .noCapacity label would unit ceiling =>
    s!"NO_CAPACITY: node {label} would be {would}{unit}, ceiling is {ceiling}{unit}"
  | .planExceedsNodes shortfalls =>
    s!"NO_CAPACITY: applying this plan would exceed capacity on {shortfalls.length} node(s) — "
      ++ " | ".intercalate shortfalls
  | .constraint name => name

end PxHost
