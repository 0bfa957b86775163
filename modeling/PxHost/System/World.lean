import PxHost.System.Transactions

/-! The processes around the database: what each remembers between its transactions. -/

namespace PxHost

open Store

/-- A charge being started at a provider for an order that has already been committed. -/
structure ChargeJob where
  order : OrderId
  subscription : SubscriptionId
deriving DecidableEq

/-- How far one execution of the webhook worker has come. -/
inductive WebhookStage where
  | resolved (subscription : SubscriptionId) (event : InternalPaymentEvent)
      (payment : GatewayPayment) (provider : PaymentProviderName)
  | toEnqueue (order : OrderId)
  /-- Nothing left but to mark the notification; the order it found is kept for the record. -/
  | done (found : Option OrderId)
deriving DecidableEq

/-- A customer's cancellation, with the row it was decided on. -/
structure CancelRequest where
  user : UserId
  subscription : SubscriptionId
  reason : Option String
  atPeriodEnd : Bool
  server : Option ServerId
deriving DecidableEq

/-- A server some billing process has decided to suspend but has not suspended yet. -/
structure PendingSuspension where
  server : ServerId
  reason : String
deriving DecidableEq

/-- An execution of the provisioning worker, with the order as it read it. -/
structure ProvisionJob where
  id : OrderId
  order : Order
deriving DecidableEq

/-- A transfer request, with the server as it was read before the transaction. -/
structure TransferRequest where
  server : ServerId
  read : Server
  target : NodeId
deriving DecidableEq

/-- The database, the queues and the memory of every process. -/
structure World where
  db : Db := {}
  webhooks : Table NotificationId WebhookStage := .empty
  charges : List ChargeJob := []
  staleOrders : List StaleOrder := []
  pastDue : List ListedSubscription := []
  overdue : List (ListedSubscription × Int) := []
  ended : List ListedSubscription := []
  cancelling : List CancelRequest := []
  suspensions : List PendingSuspension := []
  provisioning : List ProvisionJob := []
  provisioned : List (OrderId × ServerId) := []
  transfers : List TransferRequest := []
  /-- Every order ever added to the provisioning queue. -/
  enqueued : List OrderId := []

/-- The steps of the processes, interleaved in any order. -/
inductive Op where
  /-- A request that is a single transaction. -/
  | issue (tx : Tx)
  -- the webhook worker
  | resolveWebhook (id : NotificationId) (provider : PaymentProviderName) (payment : GatewayPayment)
  | applyWebhook (id : NotificationId) (now : Time) (fresh : FreshOrder)
  | enqueueWebhook (id : NotificationId)
  | finishWebhook (id : NotificationId) (now : Time)
  /-- The execution ends early; without an error text not even the failure is recorded. -/
  | abortWebhook (id : NotificationId) (now : Time) (error : Option String)
  -- checkout, renewals and their charges
  | checkout (now : Time) (user : UserId) (dto : CreateCheckoutDto) (subscription : SubscriptionId)
      (fresh : FreshOrder) (ttlMinutes : Option Int)
  | renewalCharge (now : Time) (subscription : SubscriptionId) (fresh : FreshOrder)
      (graceDays : Option Int)
  | chargeRecorded (job : ChargeJob) (charge : GatewayPayment)
  | chargePresented (job : ChargeJob) (details : ChargeDetails)
  | cardAuthorized (job : ChargeJob) (preapproval initPoint : String)
  | chargeFailed (job : ChargeJob)
  -- the daily job
  | listStaleOrders (now : Time)
  | expireStaleOrder (now : Time) (stale : StaleOrder)
  | listPastDue
  | checkGracePeriod (now : Time) (graceDays : Int) (listed : ListedSubscription)
  | suspendOverdue (now : Time) (graceDays : Int) (listed : ListedSubscription)
  | listEnded (now : Time)
  | finishCancellation (now : Time) (listed : ListedSubscription)
  | suspendForBilling (now : Time) (pending : PendingSuspension)
  -- the customer's cancellation
  | readCancellation (user : UserId) (subscription : SubscriptionId) (reason : Option String)
      (atPeriodEnd : Bool)
  | cancelSubscription (now : Time) (request : CancelRequest)
  -- the provisioning worker
  | startProvisioning (order : OrderId)
  | markProvisioningRunning (job : ProvisionJob)
  | provision (job : ProvisionJob) (now : Time) (node : NodeId)
      (context : Option TemplateContext) (fresh : FreshServer)
  | finishProvisioning (order : OrderId) (server : ServerId)
  | failProvisioning (job : ProvisionJob) (message : String)
  | retryProvisioning (order : OrderId)
  -- transfers
  | readTransfer (server : ServerId) (target : NodeId)
  | initiateTransfer (now : Time) (request : TransferRequest) (allocation : Option AllocationId)
      (transfer : TransferId)

/-- The transactions a customer, an administrator or an agent may issue at any time. -/
def Tx.isDirect : Tx → Bool
  | .preapprovalEvent .. | .createForUser .. | .updateStatusAsAdmin .. | .createOnNode ..
  | .removeServer .. | .reportInstallResult .. | .dispatchFailed .. | .setTransferStatus ..
  | .failTransfer .. | .handleResult .. | .updatePlan .. | .applyToServers .. => true
  | .suspend _ _ _ source => source == .admin
  | .unsuspend _ requireSource => requireSource.isNone
  | _ => false

/-- The transaction a step issues, if the process is at that point at all. -/
def issued (w : World) : Op → Option Tx
  | .issue tx => if tx.isDirect then some tx else none
  | .resolveWebhook id provider payment =>
    if (w.webhooks.get? id).isSome || classifyPayment provider payment == .ignored
        || (findSubscriptionForPayment w.db payment provider).isSome then none
    else some (.orderNotFound id payment.id)
  | .applyWebhook id now fresh =>
    match w.webhooks.get? id with
    | some (.resolved subscription event payment provider) =>
      some (.applyPaymentOutcome now subscription event payment provider fresh)
    | _ => none
  | .finishWebhook id now =>
    match w.webhooks.get? id with
    | some (.done _) => some (.markEvent now id .processed none)
    | _ => none
  | .abortWebhook id now error =>
    match w.webhooks.get? id, error with
    | some _, some text => some (.markEvent now id .failed (some text))
    | _, _ => none
  | .checkout now user dto subscription fresh ttlMinutes =>
    some (.createCheckoutOrder now user dto subscription fresh ttlMinutes)
  | .renewalCharge now subscription fresh graceDays =>
    some (.createOfflineRenewalCharge now subscription fresh graceDays)
  | .chargeRecorded job charge =>
    if job ∈ w.charges then some (.recordCharge job.order charge) else none
  | .chargePresented job details =>
    if job ∈ w.charges then some (.presentCharge job.order details) else none
  | .cardAuthorized job preapproval initPoint =>
    if job ∈ w.charges then some (.authorizeCard job.order job.subscription preapproval initPoint)
    else none
  | .chargeFailed job => if job ∈ w.charges then some (.failCharge job.order) else none
  | .expireStaleOrder now stale =>
    if stale ∈ w.staleOrders then some (.expireStaleOrder now stale) else none
  | .suspendOverdue now graceDays listed =>
    if (listed, graceDays) ∈ w.overdue then some (.suspendOverdue now graceDays listed.id)
    else none
  | .finishCancellation now listed =>
    if listed ∈ w.ended then some (.finishCancellation now listed) else none
  | .suspendForBilling now pending =>
    if pending ∈ w.suspensions then some (.suspend now pending.server pending.reason .billing)
    else none
  | .cancelSubscription now request =>
    if request ∉ w.cancelling then none
    else if request.atPeriodEnd then some (.cancelAtPeriodEnd request.subscription request.reason)
    else some (.cancelForUser now request.user request.subscription request.reason)
  | .markProvisioningRunning job =>
    if job ∈ w.provisioning then some (.markProvisioningRunning job.id) else none
  | .provision job now node context fresh =>
    if job ∈ w.provisioning then
      some (.createOnNode now (provisionInput job.order) node context fresh)
    else none
  | .finishProvisioning order server =>
    if (order, server) ∈ w.provisioned then some (.finishProvisioning order server) else none
  | .failProvisioning job message =>
    if job ∈ w.provisioning then some (.failProvisioning job.id message) else none
  | .initiateTransfer now request allocation transfer =>
    if request ∈ w.transfers then
      some (.initiateTransfer now request.server request.read request.target allocation transfer)
    else none
  | .enqueueWebhook _ | .listStaleOrders _ | .listPastDue | .checkGracePeriod .. | .listEnded _
  | .readCancellation .. | .startProvisioning _ | .retryProvisioning _ | .readTransfer .. => none

def foundOrder (db : Db) (subscription : SubscriptionId) (payment : GatewayPayment)
    (provider : PaymentProviderName) (fresh : FreshOrder) : Option OrderId := do
  let s ← db.subscriptions.get? subscription
  let (_, found) ← (findOrCreateOrderForPayment db subscription s payment provider fresh).toOption
  found.map Prod.fst

/-- Where a webhook execution stands once its transaction has answered. -/
def nextStage (db : Db) (now : Time) (fresh : FreshOrder) : WebhookStage → WebhookStage
  | .resolved subscription event payment provider =>
    match applyPaymentOutcome db now subscription event payment provider fresh with
    | .ok (_, some order) => .toEnqueue order
    | .ok (_, none) => .done (foundOrder db subscription payment provider fresh)
    -- The exception is on its way to the handler, which is a step of its own.
    | .error _ => .resolved subscription event payment provider
  | other => other

def dueSuspension (server : Option ServerId) (reason : String) : List PendingSuspension :=
  server.toList.map fun id => ⟨id, reason⟩

/-- What the processes remember after a step; the database is taken care of separately. -/
def remember (w : World) : Op → World
  | .resolveWebhook id provider payment =>
    if (w.webhooks.get? id).isSome then w
    else
      let event := classifyPayment provider payment
      let stage := if event = .ignored then .done none
        else match findSubscriptionForPayment w.db payment provider with
          | none => .done none
          | some subscription => .resolved subscription event payment provider
      { w with webhooks := w.webhooks.upsert id stage fun _ => stage }
  | .applyWebhook id now fresh =>
    { w with webhooks := w.webhooks.modify id (nextStage w.db now fresh) }
  | .enqueueWebhook id =>
    match w.webhooks.get? id with
    | some (.toEnqueue order) =>
      { w with
        enqueued := w.enqueued ++ [order]
        webhooks := w.webhooks.modify id fun _ => .done (some order) }
    | _ => w
  | .finishWebhook id _ =>
    match w.webhooks.get? id with
    | some (.done _) => { w with webhooks := w.webhooks.erase id }
    | _ => w
  | .abortWebhook id _ _ => { w with webhooks := w.webhooks.erase id }
  | .checkout now user dto subscription fresh ttlMinutes =>
    match createCheckoutOrder w.db now user dto subscription fresh ttlMinutes with
    | .ok (_, .created order subscription) =>
      { w with charges := w.charges ++ [⟨order, subscription⟩] }
    | _ => w
  | .renewalCharge now subscription fresh graceDays =>
    match createOfflineRenewalCharge w.db now subscription fresh graceDays with
    | .ok (_, some order) => { w with charges := w.charges ++ [⟨order, subscription⟩] }
    | _ => w
  | .chargePresented job _ | .cardAuthorized job _ _ | .chargeFailed job =>
    { w with charges := w.charges.erase job }
  | .listStaleOrders now => { w with staleOrders := w.staleOrders ++ listStaleOrders w.db now }
  | .expireStaleOrder _ stale => { w with staleOrders := w.staleOrders.erase stale }
  | .listPastDue => { w with pastDue := w.pastDue ++ listPastDue w.db }
  | .checkGracePeriod now graceDays listed =>
    let overdue := if listed ∈ w.pastDue ∧ pastGracePeriod w.db now graceDays listed.id
      then w.overdue ++ [(listed, graceDays)] else w.overdue
    { w with pastDue := w.pastDue.erase listed, overdue }
  | .suspendOverdue now graceDays listed =>
    let due := if (listed, graceDays) ∈ w.overdue
        ∧ (suspendOverdueSubscription w.db now graceDays listed.id).isOk
      then dueSuspension listed.serverId
        s!"billing: past_due for more than {graceDays} day(s)" else []
    { w with overdue := w.overdue.erase (listed, graceDays), suspensions := w.suspensions ++ due }
  | .listEnded now => { w with ended := w.ended ++ listEndedCancellations w.db now }
  | .finishCancellation now listed =>
    let due := if listed ∈ w.ended ∧ (finishCancellation w.db now listed).isOk
      then dueSuspension listed.serverId "billing: subscription cancelled (period ended)" else []
    { w with ended := w.ended.erase listed, suspensions := w.suspensions ++ due }
  | .suspendForBilling _ pending => { w with suspensions := w.suspensions.erase pending }
  | .readCancellation user subscription reason atPeriodEnd =>
    match (w.db.subscriptions.get? subscription).filter (·.userId == user) with
    | none => w
    | some s =>
      let deferred := atPeriodEnd && (s.status == .active || s.status == .pastDue)
      { w with
        cancelling := w.cancelling ++ [⟨user, subscription, reason, deferred, s.serverId⟩] }
  | .cancelSubscription now request =>
    let due := if request ∈ w.cancelling ∧ ¬ request.atPeriodEnd
        ∧ (cancelForUser w.db now request.user request.subscription request.reason).isOk
      then dueSuspension request.server "billing: subscription cancelled" else []
    { w with cancelling := w.cancelling.erase request, suspensions := w.suspensions ++ due }
  | .startProvisioning order =>
    if order ∉ w.enqueued then w
    else match checkProvisionable w.db order with
      | .ok (some row) => { w with provisioning := w.provisioning ++ [⟨order, row⟩] }
      | _ => w
  | .provision job now node context fresh =>
    if job ∈ w.provisioning
        ∧ (createOnNode w.db now (provisionInput job.order) node context fresh).isOk then
      { w with
        provisioning := w.provisioning.erase job
        provisioned := w.provisioned ++ [(job.id, fresh.id)] }
    else w
  | .finishProvisioning order server =>
    { w with provisioned := w.provisioned.erase (order, server) }
  | .failProvisioning job _ => { w with provisioning := w.provisioning.erase job }
  | .retryProvisioning order =>
    if (retryProvisioningAsAdmin w.db order).isOk then { w with enqueued := w.enqueued ++ [order] }
    else w
  | .readTransfer server target =>
    match initiateRead w.db server target with
    | .ok read => { w with transfers := w.transfers ++ [⟨server, read, target⟩] }
    | .error _ => w
  | .initiateTransfer _ request _ _ => { w with transfers := w.transfers.erase request }
  | .issue _ | .chargeRecorded .. | .markProvisioningRunning _ => w

def step (w : World) (op : Op) : World :=
  { remember w op with
    db := match issued w op with
      | none => w.db
      | some tx => commit w.db tx }

theorem step_db (w : World) (op : Op) :
    (step w op).db = match issued w op with
      | none => w.db
      | some tx => commit w.db tx := rfl

theorem step_db_cases (w : World) (op : Op) :
    (step w op).db = w.db ∨
      ∃ tx, issued w op = some tx ∧ exec w.db tx = .ok (step w op).db := by
  rw [step_db]
  cases issued w op with
  | none => exact .inl rfl
  | some tx =>
    cases executed : exec w.db tx with
    | error e => exact .inl (by simp [commit, executed])
    | ok after => exact .inr ⟨tx, rfl, by simp [commit, executed]⟩

end PxHost
