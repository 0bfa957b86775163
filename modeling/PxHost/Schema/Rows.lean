import PxHost.Schema.Types

/-! The columns of each table the billing, capacity and server services read or write. -/

namespace PxHost

/-- The columns of a user that billing looks at. -/
structure User where
  deletedAt : Option Time := none
  cpf : Option String := none
  billingPostalCode : Option String := none
  billingAddressLine : Option String := none
  billingAddressNumber : Option String := none
  billingNeighborhood : Option String := none
  billingCity : Option String := none
  billingState : Option String := none
deriving DecidableEq

/-- The plan columns that are copied onto a server and compared when a plan drifts. -/
structure Limits where
  cpuLimitPercent : Nat := 100
  memoryMb : Nat
  swapMb : Int := 0
  diskMb : Nat
  ioWeight : Int := 500
  oomKillEnabled : Bool := false
  maxDatabases : Int := 0
  maxBackups : Int := 0
  maxSchedules : Int := 5
deriving DecidableEq

structure Plan where
  name : String
  isPublic : Bool := true
  limits : Limits
  maxAllocations : Int := 1
  /-- How many customers the plan may hold; `none` is no bound. -/
  maxSlots : Option Nat := none
  priceCents : Int
  currency : String := "BRL"
  /-- A missing period marks a plan that is not sold on a recurring basis. -/
  billingPeriod : Option BillingPeriod := some .monthly
  deletedAt : Option Time := none
deriving DecidableEq

/-- A plan restricted to some nodes has one row for each of them. -/
structure PlanNode where
  planId : PlanId
  nodeId : NodeId
  priority : Int := 0
deriving DecidableEq

structure Node where
  name : String
  locationId : LocationId := 0
  isPublic : Bool := true
  maintenanceMode : Bool := false
  memoryTotalMb : Int
  memoryReservedMb : Int := 0
  memoryOverallocatePct : Int := 0
  diskTotalMb : Int
  diskReservedMb : Int := 0
  diskOverallocatePct : Int := 0
  cpuTotalPercent : Int := 0
  cpuReservedPercent : Int := 0
  cpuOverallocatePct : Int := -1
  /-- Plans below this price are kept off the node. -/
  reservedForPlansAbovePriceCents : Option Int := none
  capacityMode : CapacityMode := .manual
  memorySafetyMarginPct : Int := 10
  diskSafetyMarginPct : Int := 10
  cpuSafetyMarginPct : Int := 10
  lastHeartbeatAt : Option Time := none
  reportedMemoryTotalMb : Option Int := none
  reportedMemoryLimitMb : Option Int := none
  reportedCpuCount : Option Int := none
  reportedDiskTotalMb : Option Int := none
  reportedAt : Option Time := none
  deletedAt : Option Time := none
deriving DecidableEq

structure Server where
  shortId : String
  ownerId : UserId
  nodeId : NodeId
  templateId : Option TemplateId
  planId : Option PlanId
  uid : Option Nat
  name : String
  dockerImage : Option String
  startupCommand : Option String
  limits : Limits
  maxAllocations : Int
  status : ServerStatus
  suspendedAt : Option Time := none
  suspensionReason : Option String := none
  suspensionSource : Option SuspensionSource := none
  installedAt : Option Time := none
deriving DecidableEq

/-- The check constraints of the `servers` table. -/
structure Server.Checked (s : Server) : Prop where
  suspension : s.status = .suspended ↔ s.suspendedAt.isSome
  source : s.status = .suspended ↔ s.suspensionSource.isSome
  setup : s.status = .setupPending ↔ s.templateId.isNone
  software : s.status = .setupPending ∨ s.dockerImage.isSome ∧ s.startupCommand.isSome

instance (s : Server) : Decidable s.Checked :=
  decidable_of_iff
    ((s.status = .suspended ↔ s.suspendedAt.isSome) ∧
      (s.status = .suspended ↔ s.suspensionSource.isSome) ∧
      (s.status = .setupPending ↔ s.templateId.isNone) ∧
      (s.status = .setupPending ∨ s.dockerImage.isSome ∧ s.startupCommand.isSome))
    ⟨fun ⟨a, b, c, d⟩ => ⟨a, b, c, d⟩, fun ⟨a, b, c, d⟩ => ⟨a, b, c, d⟩⟩

abbrev ServerRow := { s : Server // s.Checked }

structure Allocation where
  nodeId : NodeId
  serverId : Option ServerId := none
  isPrimary : Bool := false
deriving DecidableEq

/-- The check constraint of the `allocations` table: a primary allocation is owned. -/
def Allocation.Checked (a : Allocation) : Prop := a.isPrimary → a.serverId.isSome

instance (a : Allocation) : Decidable a.Checked :=
  inferInstanceAs (Decidable (_ → _))

abbrev AllocationRow := { a : Allocation // a.Checked }

theorem AllocationRow.checked_freed (a : AllocationRow) :
    Allocation.Checked { a.val with serverId := none, isPrimary := false } := nofun

structure ServerTransfer where
  serverId : ServerId
  sourceNodeId : NodeId
  targetNodeId : NodeId
  targetAllocationId : Option AllocationId
  targetUid : Option Nat
  status : TransferStatus
  errorMessage : Option String := none
  startedAt : Option Time := none
  completedAt : Option Time := none
deriving DecidableEq

structure Subscription where
  userId : UserId
  planId : PlanId
  serverId : Option ServerId := none
  status : SubscriptionStatus
  priceCents : Int
  currency : String
  billingPeriod : BillingPeriod
  startedAt : Option Time := none
  currentPeriodEndsAt : Option Time := none
  cancelledAt : Option Time := none
  cancelReason : Option String := none
  cancelAtPeriodEnd : Bool := false
  paymentMethod : Option PaymentMethod := none
  paymentProvider : PaymentProviderName := .mercadopago
  externalSubscriptionId : Option String := none
  autoRenew : Bool := false
deriving DecidableEq

/-- One entry of the append-only status history of a subscription. -/
structure SubscriptionEvent where
  subscriptionId : SubscriptionId
  fromStatus : Option SubscriptionStatus
  toStatus : SubscriptionStatus
  actorId : Option UserId
  reason : Option String
  createdAt : Time
deriving DecidableEq

/-- The software an order placed before post-purchase setup still asks for. -/
structure OrderConfigSnapshot where
  serverName : Option String := none
  template : Option (TemplateId × String) := none
deriving DecidableEq

structure Presentation where
  externalPreferenceId : Option String := none
  checkoutUrl : Option String := none
  pixQrCode : Option String := none
  pixQrCodeBase64 : Option String := none
  boletoDigitableLine : Option String := none
  boletoUrl : Option String := none
deriving DecidableEq

structure Order where
  externalReference : String
  userId : UserId
  planId : PlanId
  subscriptionId : Option SubscriptionId
  serverId : Option ServerId := none
  kind : OrderKind
  amountCents : Int
  currency : String
  status : OrderStatus
  provider : PaymentProviderName
  presentation : Presentation := {}
  paymentMethod : Option PaymentMethod := none
  paidAmountCents : Option Int := none
  paidAt : Option Time := none
  expiresAt : Option Time := none
  provisioningStatus : ProvisioningStatus
  provisioningError : Option String := none
  provisioningAttempts : Nat := 0
  config : OrderConfigSnapshot := {}
deriving DecidableEq

structure Payment where
  orderId : OrderId
  status : String
  statusDetail : Option String
  amountCents : Int
  paidAmountCents : Option Int
  currency : String
  paymentMethodId : Option String
  paymentTypeId : Option String
  installments : Option Int
  approvedAt : Option Time
deriving DecidableEq

structure PaymentWebhookEvent where
  status : WebhookEventStatus := .received
  error : Option String := none
  processedAt : Option Time := none
deriving DecidableEq

/-- What the audit trail records, with the identifiers each entry is about. -/
inductive AuditEntry where
  | webhookOrderNotFound (notification : NotificationId) (payment : PaymentId)
  | amountMismatch (order : OrderId) (expected : Int) (received : Option Int) (payment : PaymentId)
  | paymentApproved (order : OrderId) (payment : PaymentId)
  | paymentRefunded (order : OrderId) (payment : PaymentId)
  | paymentRejected (order : OrderId) (payment : PaymentId)
  | subscriptionRenewed (subscription : SubscriptionId) (order : OrderId)
  | subscriptionActivated (subscription : SubscriptionId) (order : OrderId)
  | subscriptionReactivated (subscription : SubscriptionId) (order : OrderId)
  | serverReactivated (server : ServerId)
deriving DecidableEq

end PxHost
