import PxHost.Lib.Run
import PxHost.Payments.Provisioning
import PxHost.Billing.Cycle
import PxHost.Transfers.Service
import PxHost.Plans.Service

/-! The transactions the services issue, as steps of one database. -/

namespace PxHost

inductive PipelineStage where
  | archiving | uploading | restoring
deriving DecidableEq

def PipelineStage.status : PipelineStage → TransferStatus
  | .archiving => .archiving
  | .uploading => .uploading
  | .restoring => .restoring

/-- One transaction, with everything it was called with. -/
inductive Tx where
  -- payment webhooks
  | applyPaymentOutcome (now : Time) (subscription : SubscriptionId) (event : InternalPaymentEvent)
      (payment : GatewayPayment) (provider : PaymentProviderName) (fresh : FreshOrder)
  | orderNotFound (notification : NotificationId) (payment : PaymentId)
  | preapprovalEvent (now : Time) (externalId : String) (gateway : GatewaySubscription)
      (provider : PaymentProviderName)
  | markEvent (now : Time) (notification : NotificationId) (status : WebhookEventStatus)
      (error : Option String)
  -- checkout and the charges of orders
  | createForUser (now : Time) (user : UserId) (plan : PlanId) (id : SubscriptionId)
  | createCheckoutOrder (now : Time) (user : UserId) (dto : CreateCheckoutDto)
      (subscription : SubscriptionId) (fresh : FreshOrder) (ttlMinutes : Option Int)
  | createOfflineRenewalCharge (now : Time) (subscription : SubscriptionId) (fresh : FreshOrder)
      (graceDays : Option Int)
  | recordCharge (order : OrderId) (charge : GatewayPayment)
  | presentCharge (order : OrderId) (details : ChargeDetails)
  | authorizeCard (order : OrderId) (subscription : SubscriptionId) (preapproval initPoint : String)
  | failCharge (order : OrderId)
  -- status changes by the customer, an administrator and the daily job
  | cancelForUser (now : Time) (user : UserId) (id : SubscriptionId) (reason : Option String)
  | cancelAtPeriodEnd (id : SubscriptionId) (reason : Option String)
  | updateStatusAsAdmin (now : Time) (id : SubscriptionId) (status : SubscriptionStatus)
      (reason : Option String) (actor : UserId)
  | expireStaleOrder (now : Time) (stale : StaleOrder)
  | suspendOverdue (now : Time) (graceDays : Int) (id : SubscriptionId)
  | finishCancellation (now : Time) (ended : ListedSubscription)
  -- servers and provisioning
  | markProvisioningRunning (order : OrderId)
  | finishProvisioning (order : OrderId) (server : ServerId)
  | failProvisioning (order : OrderId) (message : String)
  | createOnNode (now : Time) (dto : CreateOnNodeInput) (node : NodeId)
      (context : Option TemplateContext) (fresh : FreshServer)
  | removeServer (id : ServerId)
  | suspend (now : Time) (id : ServerId) (reason : String) (source : SuspensionSource)
  | unsuspend (id : ServerId) (requireSource : Option SuspensionSource)
  | reportInstallResult (now : Time) (node : NodeId) (id : ServerId) (successful : Bool)
  | dispatchFailed (id : ServerId)
  -- transfers and plans
  | initiateTransfer (now : Time) (id : ServerId) (read : Server) (target : NodeId)
      (allocation : Option AllocationId) (transfer : TransferId)
  | setTransferStatus (transfer : TransferId) (stage : PipelineStage) (startedAt : Option Time)
  | failTransfer (now : Time) (transfer : TransferId) (message : String)
  | handleResult (now : Time) (node : NodeId) (transfer : TransferId) (successful : Bool)
      (error : Option String)
  | updatePlan (plan : PlanId) (dto : UpdatePlanDto)
  | applyToServers (now : Time) (plan : PlanId)

def markEvent (db : Db) (now : Time) (notification : NotificationId)
    (status : WebhookEventStatus) (error : Option String) : Db :=
  { db with
    webhookEvents := db.webhookEvents.modify notification
      fun e => { e with status, error, processedAt := some now } }

/-- What a transaction does to the database, or the failure it rolls back with. -/
def exec (db : Db) : Tx → Except ApiError Db
  | .applyPaymentOutcome now subscription event payment provider fresh =>
    (applyPaymentOutcome db now subscription event payment provider fresh).map Prod.fst
  | .orderNotFound notification payment =>
    .ok (db.record (.webhookOrderNotFound notification payment))
  | .preapprovalEvent now externalId gateway provider =>
    processPreapprovalEvent db now externalId gateway provider
  | .markEvent now notification status error => .ok (markEvent db now notification status error)
  | .createForUser now user plan id => createForUser db now user plan id
  | .createCheckoutOrder now user dto subscription fresh ttlMinutes =>
    (createCheckoutOrder db now user dto subscription fresh ttlMinutes).map Prod.fst
  | .createOfflineRenewalCharge now subscription fresh graceDays =>
    (createOfflineRenewalCharge db now subscription fresh graceDays).map Prod.fst
  | .recordCharge order charge => .ok (recordFromGateway db order charge)
  | .presentCharge order details => presentCharge db order details
  | .authorizeCard order subscription preapproval initPoint =>
    authorizeCard db order subscription preapproval initPoint
  | .failCharge order => failCharge db order
  | .cancelForUser now user id reason => cancelForUser db now user id reason
  | .cancelAtPeriodEnd id reason => cancelAtPeriodEnd db id reason
  | .updateStatusAsAdmin now id status reason actor =>
    updateStatusAsAdmin db now id status reason actor
  | .expireStaleOrder now stale => expireStaleOrder db now stale
  | .suspendOverdue now graceDays id => suspendOverdueSubscription db now graceDays id
  | .finishCancellation now ended => finishCancellation db now ended
  | .markProvisioningRunning order => markProvisioningRunning db order
  | .finishProvisioning order server => finishProvisioning db order server
  | .failProvisioning order message => failProvisioning db order message
  | .createOnNode now dto node context fresh => createOnNode db now dto node context fresh
  | .removeServer id => removeServer db id
  | .suspend now id reason source => suspend db now id reason source
  | .unsuspend id requireSource => (unsuspend db id requireSource).map Prod.fst
  | .reportInstallResult now node id successful => reportInstallResult db now node id successful
  | .dispatchFailed id => dispatchFailed db id
  | .initiateTransfer now id read target allocation transfer =>
    initiate db now id read target allocation transfer
  | .setTransferStatus transfer stage startedAt =>
    setTransferStatus db transfer stage.status startedAt
  | .failTransfer now transfer message => failTransfer db now transfer message
  | .handleResult now node transfer successful error =>
    handleResult db now node transfer successful error
  | .updatePlan plan dto => updatePlanRow db plan dto
  | .applyToServers now plan => applyToServers db now plan

/-- A transaction that fails leaves no trace. -/
def commit (db : Db) (tx : Tx) : Db :=
  match exec db tx with
  | .ok committed => committed
  | .error _ => db

theorem commit_preserves {P : Db → Prop} {db : Db} {tx : Tx} (before : P db)
    (committed : ∀ after, exec db tx = .ok after → P after) : P (commit db tx) := by
  unfold commit
  split
  · rename_i after executed
    exact committed after executed
  · exact before

end PxHost
