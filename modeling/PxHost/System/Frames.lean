import PxHost.Billing.CycleLaws
import PxHost.Plans.ServiceLaws
import PxHost.System.World
import PxHost.Transfers.ServiceLaws

/-! Which half of the database a transaction leaves alone. -/

namespace PxHost

open Fallible

/-- The half of the database a transaction writes to. -/
inductive Side where
  | ledger | machines | both
deriving DecidableEq

/-- Orders and subscriptions are one half, servers, transfers, plans and nodes the other. -/
def Tx.side : Tx → Side
  | .applyPaymentOutcome .. | .createOnNode .. | .removeServer .. => .both
  | .suspend .. | .unsuspend .. | .reportInstallResult .. | .dispatchFailed ..
  | .initiateTransfer .. | .setTransferStatus .. | .failTransfer .. | .handleResult ..
  | .updatePlan .. | .applyToServers .. => .machines
  | .orderNotFound .. | .preapprovalEvent .. | .markEvent .. | .createForUser ..
  | .createCheckoutOrder .. | .createOfflineRenewalCharge .. | .recordCharge ..
  | .presentCharge .. | .authorizeCard .. | .failCharge .. | .cancelForUser ..
  | .cancelAtPeriodEnd .. | .updateStatusAsAdmin .. | .expireStaleOrder .. | .suspendOverdue ..
  | .finishCancellation .. | .markProvisioningRunning .. | .finishProvisioning ..
  | .failProvisioning .. => .ledger

structure SameLedger (db after : Db) : Prop where
  orders : after.orders = db.orders
  subscriptions : after.subscriptions = db.subscriptions
  payments : after.payments = db.payments
  subscriptionEvents : after.subscriptionEvents = db.subscriptionEvents

structure SameFleet (db after : Db) : Prop where
  transfers : after.transfers = db.transfers
  plans : after.plans = db.plans
  nodes : after.nodes = db.nodes
  allocations : after.allocations = db.allocations

structure SameMachines (db after : Db) : Prop extends SameFleet db after where
  servers : after.servers = db.servers

def Tx.movesTransfers : Tx → Bool
  | .initiateTransfer .. | .setTransferStatus .. | .failTransfer .. | .handleResult ..
  | .removeServer .. => true
  | _ => false

/-- The transaction hands a port to a server, or takes one back. -/
def Tx.movesPorts : Tx → Bool
  | .createOnNode .. | .initiateTransfer .. | .failTransfer .. | .handleResult ..
  | .removeServer .. => true
  | _ => false

def Tx.movesOrders : Tx → Bool
  | .applyPaymentOutcome .. | .createCheckoutOrder .. | .createOfflineRenewalCharge ..
  | .presentCharge .. | .authorizeCard .. | .failCharge .. | .expireStaleOrder ..
  | .markProvisioningRunning .. | .finishProvisioning .. | .failProvisioning ..
  | .removeServer .. => true
  | _ => false

/-- The transaction records what a provider has charged. -/
def Tx.movesPayments : Tx → Bool
  | .applyPaymentOutcome .. | .recordCharge .. => true
  | _ => false

/-- The transaction may change the status of a subscription, and tell of it. -/
def Tx.movesStatus : Tx → Bool
  | .applyPaymentOutcome .. | .preapprovalEvent .. | .createForUser .. | .createCheckoutOrder ..
  | .cancelForUser .. | .updateStatusAsAdmin .. | .expireStaleOrder .. | .suspendOverdue ..
  | .finishCancellation .. => true
  | _ => false

def Tx.movesSubscriptions : Tx → Bool
  | .authorizeCard .. | .cancelAtPeriodEnd .. | .createOnNode .. | .removeServer .. => true
  | tx => tx.movesStatus

/-- Each part of the ledger is touched by a few transactions. -/
structure LedgerStep (tx : Tx) (db after : Db) : Prop where
  orders : tx.movesOrders = false → after.orders = db.orders
  subscriptions : tx.movesSubscriptions = false → after.subscriptions = db.subscriptions
  payments : tx.movesPayments = false → after.payments = db.payments
  subscriptionEvents : tx.movesStatus = false → after.subscriptionEvents = db.subscriptionEvents

/--
No node is touched, transfers and ports by a few transactions, and the plans only by an edit.
-/
structure FleetStep (tx : Tx) (db after : Db) : Prop where
  nodes : after.nodes = db.nodes
  transfers : tx.movesTransfers = false → after.transfers = db.transfers
  allocations : tx.movesPorts = false → after.allocations = db.allocations
  plans : after.plans = db.plans ∨ ∃ plan dto f, tx = .updatePlan plan dto ∧
    (∀ row, (f row).maxSlots = dto.maxSlots.getD row.maxSlots) ∧
    after.plans = db.plans.modify plan f

variable {db after : Db} {tx : Tx}

theorem unsuspend_frame {id : ServerId} {requireSource : Option SuspensionSource} {lifted : Bool}
    (lifts : unsuspend db id requireSource = .ok (after, lifted)) :
    SameLedger db after ∧ SameFleet db after := by
  rcases unsuspend_ok lifts with rfl | ⟨row, -, -, ok, rfl⟩ <;>
    exact ⟨⟨rfl, rfl, rfl, rfl⟩, rfl, rfl, rfl, rfl⟩

theorem transitionedIfAllowed_frame (now : Time) (id : SubscriptionId) (s : Subscription)
    (target : SubscriptionStatus) (reason : String) :
    SameMachines db (db.transitionedIfAllowed now id s target reason) ∧
      (db.transitionedIfAllowed now id s target reason).orders = db.orders ∧
      (db.transitionedIfAllowed now id s target reason).payments = db.payments := by
  unfold Db.transitionedIfAllowed
  split <;> exact ⟨⟨⟨rfl, rfl, rfl, rfl⟩, rfl⟩, rfl, rfl⟩

theorem cancelSupersededCheckout_frame (id : OrderId) (duplicate : Order) :
    SameMachines db (cancelSupersededCheckout db id duplicate) ∧
      (cancelSupersededCheckout db id duplicate).payments = db.payments := by
  unfold cancelSupersededCheckout
  dsimp only
  split <;> exact ⟨⟨⟨rfl, rfl, rfl, rfl⟩, rfl⟩, rfl⟩

theorem rejected_frame (now : Time) (id : SubscriptionId) (s : Subscription)
    (payment : GatewayPayment) (orderId : OrderId) (order : Order) :
    SameMachines db (db.rejected now id s payment orderId order) ∧
      (db.rejected now id s payment orderId order).orders = (if order.status = .pending then
        db.orders.modify orderId fun o => { o with status := .failed } else db.orders) ∧
      (db.rejected now id s payment orderId order).payments =
        (recordFromGateway db orderId payment).payments := by
  unfold Db.rejected Db.transitionedIfAllowed
  dsimp only
  split
  · split <;> exact ⟨⟨⟨rfl, rfl, rfl, rfl⟩, rfl⟩, rfl, rfl⟩
  · exact ⟨⟨⟨rfl, rfl, rfl, rfl⟩, rfl⟩, rfl, rfl⟩

theorem Stopped.frame {now : Time} {s : Subscription} {reason : String}
    (stopped : Stopped db now s reason after) : SameLedger db after ∧ SameFleet db after := by
  cases stopped with
  | without | refused => exact ⟨⟨rfl, rfl, rfl, rfl⟩, rfl, rfl, rfl, rfl⟩
  | suspended serverId server suspends =>
    obtain ⟨row, -, -, rfl⟩ := suspend_ok_iff.mp suspends
    exact ⟨⟨rfl, rfl, rfl, rfl⟩, rfl, rfl, rfl, rfl⟩

theorem Restored.frame {now : Time} {id : SubscriptionId} {s : Subscription} {orderId : OrderId}
    {order : Order} (restored : Restored db now id s orderId order after) :
    SameFleet db after ∧ after.orders = db.orders ∧ after.payments = db.payments := by
  cases restored with
  | renewed | activated | recovered | untouched => exact ⟨⟨rfl, rfl, rfl, rfl⟩, rfl, rfl⟩
  | resumed serverId first lapsed server resumes =>
    obtain ⟨ledger, fleet⟩ := unsuspend_frame resumes
    split <;> exact ⟨⟨fleet.transfers, fleet.plans, fleet.nodes, fleet.allocations⟩, ledger.orders,
      ledger.payments⟩

/-- What happens to servers, transfers and plans leaves orders and subscriptions alone. -/
theorem exec_machines_frame (machines : tx.side = .machines) (executed : exec db tx = .ok after) :
    SameLedger db after ∧ FleetStep tx db after := by
  cases tx with
  | suspend now id reason source =>
    obtain ⟨row, -, ok, rfl⟩ := suspend_ok_iff.mp executed
    exact ⟨⟨rfl, rfl, rfl, rfl⟩, rfl, fun _ => rfl, fun _ => rfl, .inl rfl⟩
  | unsuspend id requireSource =>
    obtain ⟨_, lifts⟩ := map_fst_eq_ok_iff.mp executed
    obtain ⟨ledger, fleet⟩ := unsuspend_frame lifts
    exact ⟨ledger, fleet.nodes, fun _ => fleet.transfers, fun _ => fleet.allocations,
      .inl fleet.plans⟩
  | reportInstallResult now node id successful =>
    obtain ⟨row, -, ok, rfl⟩ := reportInstallResult_ok executed
    exact ⟨⟨rfl, rfl, rfl, rfl⟩, rfl, fun _ => rfl, fun _ => rfl, .inl rfl⟩
  | dispatchFailed id =>
    obtain ⟨row, -, ok, rfl⟩ := dispatchFailed_ok executed
    exact ⟨⟨rfl, rfl, rfl, rfl⟩, rfl, fun _ => rfl, fun _ => rfl, .inl rfl⟩
  | initiateTransfer now id read target allocation transfer =>
    obtain ⟨t, unused, row, ok, allocations, -, -, -, -, rfl⟩ := (initiate_ok executed).rows
    exact ⟨⟨rfl, rfl, rfl, rfl⟩, rfl, nofun, nofun, .inl rfl⟩
  | setTransferStatus transfer stage startedAt =>
    obtain ⟨t, g, -, rfl, -⟩ := setTransferStatus_ok executed
    exact ⟨⟨rfl, rfl, rfl, rfl⟩, rfl, nofun, fun _ => rfl, .inl rfl⟩
  | failTransfer now transfer message =>
    obtain ⟨t, ended, -⟩ := failTransfer_ok executed
    obtain ⟨row, ok, allocations, g, -, rfl, -⟩ := ended.rows
    exact ⟨⟨rfl, rfl, rfl, rfl⟩, rfl, nofun, nofun, .inl rfl⟩
  | handleResult now node transfer successful error =>
    obtain ⟨t, f, status, -, ended⟩ := handleResult_ok executed
    obtain ⟨row, ok, allocations, g, -, rfl, -⟩ := ended.rows
    exact ⟨⟨rfl, rfl, rfl, rfl⟩, rfl, nofun, nofun, .inl rfl⟩
  | updatePlan plan dto =>
    obtain ⟨f, slots, rfl⟩ := updatePlanRow_ok executed
    exact ⟨⟨rfl, rfl, rfl, rfl⟩, rfl, fun _ => rfl, fun _ => rfl, .inr ⟨plan, dto, f, rfl, slots, rfl⟩⟩
  | applyToServers now plan =>
    obtain ⟨plan, -, -, rfl⟩ := applyToServers_ok executed
    exact ⟨⟨rfl, rfl, rfl, rfl⟩, rfl, fun _ => rfl, fun _ => rfl, .inl rfl⟩
  | _ => cases machines

/-- What happens to orders and subscriptions alone leaves servers, transfers and plans alone. -/
theorem exec_ledger_frame (ledger : tx.side = .ledger) (executed : exec db tx = .ok after) :
    SameMachines db after ∧ LedgerStep tx db after := by
  cases tx with
  | orderNotFound | markEvent =>
    cases executed
    exact ⟨⟨⟨rfl, rfl, rfl, rfl⟩, rfl⟩, fun _ => rfl, fun _ => rfl, fun _ => rfl, fun _ => rfl⟩
  | recordCharge order charge =>
    cases executed
    exact ⟨⟨⟨rfl, rfl, rfl, rfl⟩, rfl⟩, fun _ => rfl, fun _ => rfl, nofun, fun _ => rfl⟩
  | preapprovalEvent now externalId gateway provider =>
    obtain ⟨id, f, events, -, rfl⟩ := processPreapprovalEvent_ok executed
    exact ⟨⟨⟨rfl, rfl, rfl, rfl⟩, rfl⟩, fun _ => rfl, nofun, fun _ => rfl, nofun⟩
  | createForUser now user plan id =>
    obtain ⟨_, _, -, creates⟩ := createForUser_ok executed
    obtain ⟨-, fresh, rfl⟩ := createPendingSubscription_ok creates
    exact ⟨⟨⟨rfl, rfl, rfl, rfl⟩, rfl⟩, fun _ => rfl, nofun, fun _ => rfl, nofun⟩
  | createCheckoutOrder now user dto subscription fresh ttlMinutes =>
    obtain ⟨_, checksOut⟩ := map_fst_eq_ok_iff.mp executed
    cases createCheckoutOrder_ok checksOut with
    | reused => exact ⟨⟨⟨rfl, rfl, rfl, rfl⟩, rfl⟩, nofun, nofun, fun _ => rfl, nofun⟩
    | created ttl replaced =>
      rcases replaced with rfl | ⟨order, duplicate, -, rfl⟩
      · exact ⟨⟨⟨rfl, rfl, rfl, rfl⟩, rfl⟩, nofun, nofun, fun _ => rfl, nofun⟩
      · have frame := @cancelSupersededCheckout_frame db order duplicate
        exact ⟨⟨⟨frame.1.transfers, frame.1.plans, frame.1.nodes, frame.1.allocations⟩,
          frame.1.servers⟩, nofun, nofun, fun _ => frame.2, nofun⟩
  | createOfflineRenewalCharge now subscription fresh graceDays =>
    obtain ⟨_, charges⟩ := map_fst_eq_ok_iff.mp executed
    rcases createOfflineRenewalCharge_ok charges with ⟨rfl, -⟩ | ⟨-, _, _, -, -, -, _, rfl⟩ <;>
      exact ⟨⟨⟨rfl, rfl, rfl, rfl⟩, rfl⟩, nofun, fun _ => rfl, fun _ => rfl, fun _ => rfl⟩
  | authorizeCard order subscription preapproval initPoint =>
    obtain rfl := authorizeCard_ok executed
    exact ⟨⟨⟨rfl, rfl, rfl, rfl⟩, rfl⟩, nofun, nofun, fun _ => rfl, fun _ => rfl⟩
  | cancelForUser now user id reason =>
    obtain ⟨s, -, -, rfl⟩ := cancelForUser_ok executed
    exact ⟨⟨⟨rfl, rfl, rfl, rfl⟩, rfl⟩, fun _ => rfl, nofun, fun _ => rfl, nofun⟩
  | cancelAtPeriodEnd id reason =>
    obtain ⟨-, rfl⟩ := Db.updateSubscription_ok_iff.mp executed
    exact ⟨⟨⟨rfl, rfl, rfl, rfl⟩, rfl⟩, fun _ => rfl, nofun, fun _ => rfl, fun _ => rfl⟩
  | updateStatusAsAdmin | suspendOverdue | finishCancellation =>
    obtain ⟨s, -, -, rfl⟩ := applyTransition_ok_iff.mp executed
    exact ⟨⟨⟨rfl, rfl, rfl, rfl⟩, rfl⟩, fun _ => rfl, nofun, fun _ => rfl, nofun⟩
  | expireStaleOrder now stale =>
    rcases expireStaleOrder_ok executed with rfl | ⟨id, s, reason, -, -, rfl⟩
    · exact ⟨⟨⟨rfl, rfl, rfl, rfl⟩, rfl⟩, nofun, nofun, fun _ => rfl, nofun⟩
    · obtain ⟨frame, -, payments⟩ :=
        @transitionedIfAllowed_frame (db.expired stale.id) now id s stale.target reason
      exact ⟨⟨⟨frame.transfers, frame.plans, frame.nodes, frame.allocations⟩, frame.servers⟩, nofun,
        nofun, fun _ => payments, nofun⟩
  | presentCharge | failCharge | markProvisioningRunning | finishProvisioning
  | failProvisioning =>
    obtain ⟨-, rfl⟩ := Db.updateOrder_ok_iff.mp executed
    exact ⟨⟨⟨rfl, rfl, rfl, rfl⟩, rfl⟩, nofun, fun _ => rfl, fun _ => rfl, fun _ => rfl⟩
  | _ => cases ledger

theorem exec_ledger (executed : exec db tx = .ok after) : LedgerStep tx db after := by
  cases side : tx.side with
  | ledger => exact (exec_ledger_frame side executed).2
  | machines =>
    have same := (exec_machines_frame side executed).1
    exact ⟨fun _ => same.orders, fun _ => same.subscriptions, fun _ => same.payments,
      fun _ => same.subscriptionEvents⟩
  | both =>
    cases tx with
    | applyPaymentOutcome => exact ⟨nofun, nofun, nofun, nofun⟩
    | createOnNode now dto node context fresh =>
      obtain ⟨plan, created⟩ := createOnNode_ok executed
      obtain ⟨server, unused, allocations, subscriptions, -, -, rfl⟩ := created.rows
      exact ⟨fun _ => rfl, nofun, fun _ => rfl, fun _ => rfl⟩
    | removeServer id =>
      obtain ⟨-, rfl⟩ := removeServer_ok executed
      exact ⟨nofun, nofun, fun _ => rfl, fun _ => rfl⟩
    | _ => cases side

variable {base : Db}

theorem SameFleet.trans (first : SameFleet db base) (second : SameFleet base after) :
    SameFleet db after :=
  ⟨second.transfers.trans first.transfers, second.plans.trans first.plans,
    second.nodes.trans first.nodes, second.allocations.trans first.allocations⟩

theorem applyPaymentOutcome_frame {now : Time} {id : SubscriptionId} {event : InternalPaymentEvent}
    {payment : GatewayPayment} {provider : PaymentProviderName} {fresh : FreshOrder}
    {answer : Option OrderId}
    (applies : applyPaymentOutcome db now id event payment provider fresh = .ok (after, answer)) :
    SameFleet db after := by
  rcases applyPaymentOutcome_ok applies with ⟨rfl, -⟩ | ⟨s, mid, orderId, order, -, resolved,
    settled⟩
  · exact ⟨rfl, rfl, rfl, rfl⟩
  have same : SameFleet db mid := by cases resolved <;> exact ⟨rfl, rfl, rfl, rfl⟩
  refine same.trans ?_
  cases settled with
  | absorbed | repeated | noted | mismatched | unmoved | cancelled => exact ⟨rfl, rfl, rfl, rfl⟩
  | confirmed unsettled confirmed amount restored =>
    have paid : SameFleet mid (mid.markedPaid now s payment orderId) := ⟨rfl, rfl, rfl, rfl⟩
    exact paid.trans restored.frame.1
  | refunded unsettled returned reason stopped =>
    have booked : SameFleet mid (mid.refunded now id s event payment orderId) := by
      unfold Db.refunded Db.transitionedIfAllowed
      split <;> exact ⟨rfl, rfl, rfl, rfl⟩
    exact booked.trans stopped.frame.2
  | rejected unsettled failed => exact (rejected_frame ..).1.toSameFleet

theorem exec_fleet (executed : exec db tx = .ok after) : FleetStep tx db after := by
  cases side : tx.side with
  | ledger =>
    have frame := (exec_ledger_frame side executed).1
    exact ⟨frame.nodes, fun _ => frame.transfers, fun _ => frame.allocations, .inl frame.plans⟩
  | machines => exact (exec_machines_frame side executed).2
  | both =>
    cases tx with
    | applyPaymentOutcome now subscription event payment provider fresh =>
      obtain ⟨_, applies⟩ := map_fst_eq_ok_iff.mp executed
      have frame := applyPaymentOutcome_frame applies
      exact ⟨frame.nodes, fun _ => frame.transfers, fun _ => frame.allocations, .inl frame.plans⟩
    | createOnNode now dto node context fresh =>
      obtain ⟨plan, created⟩ := createOnNode_ok executed
      obtain ⟨server, unused, allocations, subscriptions, -, -, rfl⟩ := created.rows
      exact ⟨rfl, fun _ => rfl, nofun, .inl rfl⟩
    | removeServer id =>
      obtain ⟨-, rfl⟩ := removeServer_ok executed
      exact ⟨rfl, nofun, nofun, .inl rfl⟩
    | _ => cases side

end PxHost
