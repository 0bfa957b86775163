import PxHost.Payments.Webhook
import PxHost.Servers.ServiceLaws
import PxHost.Subscriptions.ServiceLaws

/-! Everything the webhook transaction can do, said once. -/

namespace PxHost

open Store Fallible

/-- An order the webhook may still settle. -/
def Order.IsOpen (o : Order) : Prop :=
  o.status ≠ .paid ∧ o.status ≠ .refunded ∧ o.status ≠ .cancelled

def InternalPaymentEvent.aboutMoney : InternalPaymentEvent → Bool
  | .paymentConfirmed | .paymentPending | .paymentFailed | .paymentCanceled | .paymentRefunded
  | .paymentChargeback => true
  | .subscriptionSynced | .subscriptionPastDue | .subscriptionCanceled | .ignored => false

variable {provider : PaymentProviderName}

theorem classifyPayment_aboutMoney {payment : GatewayPayment}
    (heard : classifyPayment provider payment ≠ .ignored) :
    (classifyPayment provider payment).aboutMoney := by
  cases provider with
  | mercadopago =>
    simp only [classifyPayment, classifyMercadoPagoPayment] at heard ⊢
    split <;> first | rfl | simp_all
  | pagbank =>
    simp only [classifyPayment, classifyPagBankPayment] at heard ⊢
    split <;> first | rfl | simp_all
  | asaas => exact absurd rfl heard

/-- The database once a confirmed payment has been booked on its order. -/
def Db.markedPaid (db : Db) (now : Time) (s : Subscription) (payment : GatewayPayment)
    (orderId : OrderId) : Db :=
  { recordFromGateway db orderId payment with
    orders := db.orders.modify orderId (·.paid now s payment)
    auditLog := db.auditLog ++ [.paymentApproved orderId payment.id] }

/-- The columns of a subscription after its first payment. -/
def Subscription.activated (now : Time) (s : Subscription) : Subscription :=
  { s.transitioned now .active (some "payment webhook: confirmed") with
    autoRenew := s.paymentMethod == some .card }

/-- The database once a lapsed subscription has paid again, before its server is looked at. -/
def Db.recovered (db : Db) (now : Time) (subscriptionId : SubscriptionId)
    (current : SubscriptionStatus) (orderId : OrderId) : Db :=
  (db.transitioned now subscriptionId current .active none
    (some "payment webhook: confirmed (recovered)")).record
      (.subscriptionReactivated subscriptionId orderId)

/-- The five ways a confirmed payment can treat its subscription. -/
inductive Restored (db : Db) (now : Time) (subscriptionId : SubscriptionId) (s : Subscription)
    (orderId : OrderId) (order : Order) : Db → Prop where
  | renewed (renewal : order.kind = .planRenewal) :
    Restored db now subscriptionId s orderId order
      ((db.renewed now subscriptionId s.status none).record
        (.subscriptionRenewed subscriptionId orderId))
  | activated (first : order.kind ≠ .planRenewal) (pending : s.status = .pending) :
    Restored db now subscriptionId s orderId order
      { db with
        subscriptions := db.subscriptions.modify subscriptionId (·.activated now)
        subscriptionEvents := db.subscriptionEvents ++ [⟨subscriptionId, some .pending, .active,
          none, some "payment webhook: confirmed", now⟩]
        auditLog := db.auditLog ++ [.subscriptionActivated subscriptionId orderId] }
  | recovered (first : order.kind ≠ .planRenewal)
      (lapsed : s.status = .pastDue ∨ s.status = .suspended ∧ s.serverId = none) :
    Restored db now subscriptionId s orderId order
      (db.recovered now subscriptionId s.status orderId)
  | resumed {after : Db} {lifted : Bool} (serverId : ServerId)
      (first : order.kind ≠ .planRenewal) (lapsed : s.status = .suspended)
      (server : s.serverId = some serverId)
      (resumes : unsuspend (db.recovered now subscriptionId s.status orderId) serverId
        (some .billing) = .ok (after, lifted)) :
    Restored db now subscriptionId s orderId order
      (if lifted then after.record (.serverReactivated serverId) else after)
  | untouched (first : order.kind ≠ .planRenewal) (other : s.status ≠ .pending)
      (current : s.status ≠ .pastDue) (running : s.status ≠ .suspended) :
    Restored db now subscriptionId s orderId order db

variable {db after : Db} {now : Time} {subscriptionId : SubscriptionId} {s : Subscription}
  {payment : GatewayPayment} {orderId : OrderId} {order : Order}

/-- The subscription points at a server that is gone. -/
def Db.lacksServer (db : Db) (s : Subscription) : Prop :=
  ∃ server, s.serverId = some server ∧ db.servers.get? server = none

section Stored

variable (stored : db.subscriptions.get? subscriptionId = some s)
include stored

theorem activate_ok (pending : s.status = .pending) :
    activate db now subscriptionId s orderId = .ok { db with
      subscriptions := db.subscriptions.modify subscriptionId (·.activated now)
      subscriptionEvents := db.subscriptionEvents ++ [⟨subscriptionId, some .pending, .active,
        none, some "payment webhook: confirmed", now⟩]
      auditLog := db.auditLog ++ [.subscriptionActivated subscriptionId orderId] } := by
  -- The renewal flag is taken from the row before the change, which kept the payment method.
  have merged : (db.subscriptions.modify subscriptionId
        (·.transitioned now .active (some "payment webhook: confirmed"))).modify subscriptionId
          (fun row => { row with autoRenew := s.paymentMethod == some .card }) =
      db.subscriptions.modify subscriptionId (·.activated now) := by
    rw [Table.modify_modify]
    refine Table.modify_congr ?_
    intro row found
    obtain rfl : s = row := by simpa [stored] using found
    rfl
  have legal : canTransition .pending .active := rfl
  simp [activate, bind_eq_ok_iff, applyTransition_ok_iff, Db.updateSubscription_ok_iff, stored,
    legal, Db.transitioned, Db.record, merged, pending, Pure.pure, Except.pure]

/-- A confirmed payment restores the service, unless the server to resume is gone. -/
theorem restoreService_yields (now : Time) (orderId : OrderId) (order : Order) :
    Yields (Restored db now subscriptionId s orderId order) (db.lacksServer s)
      (restoreService db now subscriptionId s orderId order) := by
  unfold restoreService
  split
  · -- A renewal order extends the period, whatever the status of the subscription.
    rename_i renewal
    rw [applyRenewal_ok_iff.mpr ⟨s, stored, rfl⟩]
    exact .renewed renewal
  rename_i first
  split
  · rename_i pending
    rw [activate_ok stored pending]
    exact .activated first pending
  rename_i started
  split
  · rename_i lapsed
    have legal : canTransition s.status .active := by
      rcases lapsed with held | held <;> rw [held] <;> rfl
    simp only [recover, applyTransition_ok_iff.mpr ⟨s, stored, legal, rfl⟩, ok_bind]
    split
    · -- Merely overdue: its server was never suspended for it.
      rename_i running
      exact .recovered first (.inl (lapsed.resolve_right running))
    · rename_i suspended
      simp only [ne_eq, not_not] at suspended
      split
      · rename_i server
        exact .recovered first (.inr ⟨suspended, server⟩)
      · rename_i serverId server
        change Yields _ _ (unsuspend (db.recovered now subscriptionId s.status orderId) serverId
          (some .billing) >>= _)
        cases resumes : unsuspend (db.recovered now subscriptionId s.status orderId) serverId
          (some .billing) with
        | ok answer => exact .resumed serverId first suspended server resumes
        | error error =>
          -- The one thing that could still fail is lifting the suspension of a missing server.
          refine ⟨serverId, server, Option.eq_none_iff_forall_ne_some.mpr fun row found => ?_⟩
          have found' : (db.recovered now subscriptionId s.status orderId).servers.get? serverId =
              some row := found
          obtain ⟨after, lifted, succeeds⟩ := unsuspend_billing_succeeds found'
          simp [succeeds] at resumes
  · rename_i running
    exact .untouched first started (fun overdue => running (.inl overdue))
      (fun suspended => running (.inr suspended))

end Stored

/-- The status a confirmed payment leaves a subscription in, by the kind of order it settles. -/
def restoredStatus (kind : OrderKind) (status : SubscriptionStatus) : SubscriptionStatus :=
  if kind = .planRenewal then (if status = .pastDue then .active else status)
  else if status.isAlive then .active else status

/-- What a refund did to the server of the subscription, if it has one. -/
inductive Stopped (db : Db) (now : Time) (s : Subscription) (reason : String) : Db → Prop where
  | without (server : s.serverId = none) : Stopped db now s reason db
  | suspended {after : Db} (serverId : ServerId) (server : s.serverId = some serverId)
      (suspends : suspend db now serverId reason .billing = .ok after) :
    Stopped db now s reason after
  | refused {error : ApiError} (serverId : ServerId) (server : s.serverId = some serverId)
      (refuses : suspend db now serverId reason .billing = .error error) :
    Stopped db now s reason db

/-- Move a subscription when the state machine allows it. -/
def Db.transitionedIfAllowed (db : Db) (now : Time) (id : SubscriptionId) (s : Subscription)
    (target : SubscriptionStatus) (reason : String) : Db :=
  if canTransition s.status target then db.transitioned now id s.status target none (some reason)
  else db

theorem transitionIfAllowed_ok_iff (stored : db.subscriptions.get? subscriptionId = some s)
    {target : SubscriptionStatus} {reason : String} :
    transitionIfAllowed db now subscriptionId s target reason = .ok after ↔
      after = db.transitionedIfAllowed now subscriptionId s target reason := by
  unfold transitionIfAllowed Db.transitionedIfAllowed
  split
  · rename_i legal
    simp [applyTransition_ok_iff, stored, legal]
  · simp [eq_comm]

/-- The database once a refund has been booked, before the server is looked at. -/
def Db.refunded (db : Db) (now : Time) (subscriptionId : SubscriptionId) (s : Subscription)
    (event : InternalPaymentEvent) (payment : GatewayPayment) (orderId : OrderId) : Db :=
  (({ recordFromGateway db orderId payment with
      orders := db.orders.modify orderId fun o => { o with status := .refunded } }
    : Db).transitionedIfAllowed now subscriptionId s .suspended
      s!"payment webhook: {event.text}").record (.paymentRefunded orderId payment.id)

/-- The database once a rejected charge has been booked. -/
def Db.rejected (db : Db) (now : Time) (subscriptionId : SubscriptionId) (s : Subscription)
    (payment : GatewayPayment) (orderId : OrderId) (order : Order) : Db :=
  let booked : Db := { recordFromGateway db orderId payment with
    orders := if order.status = .pending then
      db.orders.modify orderId fun o => { o with status := .failed } else db.orders
    auditLog := db.auditLog ++ [.paymentRejected orderId payment.id] }
  if order.kind = .planRenewal then
    booked.transitionedIfAllowed now subscriptionId s .pastDue
      "payment webhook: renewal charge rejected"
  else booked

/-- Everything that can happen to an order a payment event was resolved to. -/
inductive Settled (db : Db) (now : Time) (subscriptionId : SubscriptionId) (s : Subscription)
    (event : InternalPaymentEvent) (payment : GatewayPayment) (orderId : OrderId) (order : Order) :
    Db → Option OrderId → Prop where
  | absorbed (closed : order.status = .refunded ∨ order.status = .cancelled) :
    Settled db now subscriptionId s event payment orderId order db none
  | repeated (paid : order.status = .paid) (kept : event ≠ .paymentRefunded)
      (undisputed : event ≠ .paymentChargeback) :
    Settled db now subscriptionId s event payment orderId order
      (recordFromGateway db orderId payment) none
  | noted (unsettled : order.IsOpen) (waiting : event = .paymentPending) :
    Settled db now subscriptionId s event payment orderId order
      (recordFromGateway db orderId payment) none
  | mismatched (unsettled : order.IsOpen) (confirmed : event = .paymentConfirmed)
      (amount : payment.amountCents ≠ some order.amountCents) :
    Settled db now subscriptionId s event payment orderId order
      (db.record (.amountMismatch orderId order.amountCents payment.amountCents payment.id)) none
  | confirmed {after : Db} (unsettled : order.IsOpen) (confirmed : event = .paymentConfirmed)
      (amount : payment.amountCents = some order.amountCents)
      (restored : Restored (db.markedPaid now s payment orderId) now subscriptionId s orderId order
        after) :
    Settled db now subscriptionId s event payment orderId order after
      (if order.provisioningStatus = .pending then some orderId else none)
  | refunded {after : Db} (unsettled : order.status ≠ .refunded ∧ order.status ≠ .cancelled)
      (returned : event = .paymentRefunded ∨ event = .paymentChargeback) (reason : String)
      (stopped : Stopped (db.refunded now subscriptionId s event payment orderId) now s reason
        after) :
    Settled db now subscriptionId s event payment orderId order after none
  | cancelled (pending : order.status = .pending) (called : event = .paymentCanceled) :
    Settled db now subscriptionId s event payment orderId order
      { db with orders := db.orders.modify orderId fun o => { o with status := .cancelled } } none
  | rejected (unsettled : order.IsOpen) (failed : event = .paymentFailed) :
    Settled db now subscriptionId s event payment orderId order
      (db.rejected now subscriptionId s payment orderId order) none
  | unmoved (unsettled : order.IsOpen)
      (idle : event = .paymentCanceled ∧ order.status ≠ .pending ∨ ¬ event.aboutMoney) :
    Settled db now subscriptionId s event payment orderId order db none

variable {event : InternalPaymentEvent} {answer : Option OrderId}

section Settlement

variable (stored : db.subscriptions.get? subscriptionId = some s)
  (found : db.orders.get? orderId = some order)

include found in
theorem booked_ok (f : Order → Order) : (recordFromGateway db orderId payment).updateOrder orderId f =
    .ok { recordFromGateway db orderId payment with orders := db.orders.modify orderId f } :=
  Db.updateOrder_ok_iff.mpr ⟨⟨order, found⟩, rfl⟩

include stored found

/-- A refund is booked whether or not the server can be suspended. -/
theorem refundOrder_yields (unclosed : order.status ≠ .refunded ∧ order.status ≠ .cancelled)
    (returned : event = .paymentRefunded ∨ event = .paymentChargeback) :
    Yields (fun result : Db × Option OrderId => Settled db now subscriptionId s event payment orderId
      order result.1 result.2) (db.lacksServer s)
      (refundOrder db now subscriptionId s event payment orderId) := by
  -- Booking the charge and the order leaves the subscriptions as they were.
  simp only [refundOrder, booked_ok found, ok_bind]
  rw [(transitionIfAllowed_ok_iff (by exact stored)).mpr rfl, ok_bind]
  cases server : s.serverId with
  | none => exact .refunded unclosed returned "" (.without server)
  | some serverId =>
    dsimp only
    split
    · rename_i suspends
      exact .refunded unclosed returned _ (.suspended serverId server suspends)
    · rename_i refuses
      exact .refunded unclosed returned _ (.refused serverId server refuses)

theorem rejectOrder_ok : rejectOrder db now subscriptionId s payment orderId order =
    .ok (db.rejected now subscriptionId s payment orderId order, none) := by
  -- Both conditional writes are decided by columns read before the first of them.
  by_cases pending : order.status = .pending <;> by_cases renewal : order.kind = .planRenewal <;>
    simp only [rejectOrder, Db.rejected, pending, renewal, if_true, if_false, ok_bind, booked_ok found]
  · rw [(transitionIfAllowed_ok_iff (by exact stored)).mpr rfl]
    rfl
  · rfl
  · rw [(transitionIfAllowed_ok_iff (by exact stored)).mpr rfl]
    rfl
  · rfl

theorem confirmOrder_yields (unsettled : order.IsOpen) :
    Yields (fun result : Db × Option OrderId => Settled db now subscriptionId s .paymentConfirmed
      payment orderId order result.1 result.2) (db.lacksServer s)
      (confirmOrder db now subscriptionId s payment orderId order) := by
  unfold confirmOrder
  split
  · rename_i amount
    exact .mismatched unsettled rfl amount
  · rename_i amount
    simp only [ne_eq, not_not] at amount
    simp only [booked_ok found, ok_bind]
    have stored' : (db.markedPaid now s payment orderId).subscriptions.get? subscriptionId = some s :=
      stored
    exact (restoreService_yields stored' now orderId order).bind fun _ restored =>
      .confirmed unsettled rfl amount restored

/-- A resolved order is settled in one of the listed ways, unless its server is gone. -/
theorem settleOrder_yields (event : InternalPaymentEvent) :
    Yields (fun result : Db × Option OrderId => Settled db now subscriptionId s event payment
      orderId order result.1 result.2) (db.lacksServer s)
      (settleOrder db now subscriptionId s event payment orderId order) := by
  unfold settleOrder
  split
  · rename_i closed
    exact .absorbed closed
  rename_i unclosed
  simp only [not_or] at unclosed
  split
  · rename_i paid
    exact .repeated paid.1 paid.2.1 paid.2.2
  rename_i guard
  -- Past both guards only a refund can still meet a paid order.
  have unsettled (kept : event ≠ .paymentRefunded) (undisputed : event ≠ .paymentChargeback) :
      order.IsOpen := ⟨fun paid => guard ⟨paid, kept, undisputed⟩, unclosed.1, unclosed.2⟩
  cases event with
  | paymentPending => exact .noted (unsettled (by decide) (by decide)) rfl
  | paymentConfirmed => exact confirmOrder_yields stored found (unsettled (by decide) (by decide))
  | paymentRefunded => exact refundOrder_yields stored found unclosed (.inl rfl)
  | paymentChargeback => exact refundOrder_yields stored found unclosed (.inr rfl)
  | paymentCanceled =>
    simp only [cancelOrder]
    split
    · rename_i pending
      rw [Db.updateOrder_ok_iff.mpr ⟨⟨order, found⟩, rfl⟩]
      exact .cancelled pending rfl
    · rename_i late
      exact .unmoved (unsettled (by decide) (by decide)) (.inl ⟨rfl, late⟩)
  | paymentFailed =>
    simp only [rejectOrder_ok stored found]
    exact .rejected (unsettled (by decide) (by decide)) rfl
  | subscriptionSynced | subscriptionPastDue | subscriptionCanceled | ignored =>
    exact .unmoved (unsettled (by decide) (by decide)) (.inr (by decide))

end Settlement

/-- The order a payment was resolved to, by the first of the four rules that applies. -/
inductive Resolved (db : Db) (subscriptionId : SubscriptionId) (s : Subscription)
    (payment : GatewayPayment) (provider : PaymentProviderName) (fresh : FreshOrder) :
    Db → OrderId → Order → Prop where
  | recorded {row : Payment} {order : Order} (recorded : db.payments.get? payment.id = some row)
      (stored : db.orders.get? row.orderId = some order) :
    Resolved db subscriptionId s payment provider fresh db row.orderId order
  | echoed {id : OrderId} {order : Order} (unrecorded : db.payments.get? payment.id = none)
      (echoed : referencedOrder db payment = some (id, order)) :
    Resolved db subscriptionId s payment provider fresh db id order
  | waiting {id : OrderId} {order : Order} (unrecorded : db.payments.get? payment.id = none)
      (unreferenced : referencedOrder db payment = none)
      (waiting : untouchedInitialOrder db subscriptionId = some (id, order)) :
    Resolved db subscriptionId s payment provider fresh db id order
  | opened (unrecorded : db.payments.get? payment.id = none)
      (unreferenced : referencedOrder db payment = none)
      (touched : untouchedInitialOrder db subscriptionId = none)
      (unused : db.orders.get? fresh.id = none) :
    Resolved db subscriptionId s payment provider fresh
      { db with
        orders := db.orders.add fresh.id
          (recurringOrder subscriptionId s payment provider fresh.externalReference) unused }
      fresh.id (recurringOrder subscriptionId s payment provider fresh.externalReference)

variable {found : OrderId × Order}

theorem referencedOrder_stored (echoed : referencedOrder db payment = some found) :
    db.orders.get? found.1 = some found.2 := by
  simp only [referencedOrder, Option.bind_eq_bind, Option.bind_eq_some_iff] at echoed
  obtain ⟨_, _, located⟩ := echoed
  exact (Table.find?_some located).1

theorem untouchedInitialOrder_stored
    (waiting : untouchedInitialOrder db subscriptionId = some found) :
    db.orders.get? found.1 = some found.2 :=
  (Table.find?_some (Option.eq_some_of_filter_eq_some waiting)).1

variable {fresh : FreshOrder} {mid : Db}

/-- The payment has no order, or one was found, or one was created for it. -/
theorem findOrCreateOrderForPayment_ok {found : Option (OrderId × Order)}
    (resolves : findOrCreateOrderForPayment db subscriptionId s payment provider fresh =
      .ok (mid, found)) :
    (mid = db ∧ found = none) ∨ ∃ id order, found = some (id, order) ∧
      Resolved db subscriptionId s payment provider fresh mid id order := by
  unfold findOrCreateOrderForPayment at resolves
  cases recorded : db.payments.get? payment.id with
  | some existing =>
    simp only [recorded, Except.ok.injEq, Prod.mk.injEq] at resolves
    obtain ⟨rfl, rfl⟩ := resolves
    cases known : db.orders.get? existing.orderId with
    | none => exact .inl ⟨rfl, by simp⟩
    | some order => exact .inr ⟨existing.orderId, order, by simp, .recorded recorded known⟩
  | none =>
    simp only [recorded] at resolves
    cases echoed : referencedOrder db payment with
    | some order =>
      simp only [echoed, Option.orElse_eq_orElse, Option.orElse_some, Except.ok.injEq,
        Prod.mk.injEq] at resolves
      obtain ⟨rfl, rfl⟩ := resolves
      exact .inr ⟨order.1, order.2, rfl, .echoed recorded echoed⟩
    | none =>
      cases waiting : untouchedInitialOrder db subscriptionId with
      | some order =>
        simp only [echoed, waiting, Option.orElse_eq_orElse, Option.orElse_none, Except.ok.injEq,
          Prod.mk.injEq] at resolves
        obtain ⟨rfl, rfl⟩ := resolves
        exact .inr ⟨order.1, order.2, rfl, .waiting recorded echoed waiting⟩
      | none =>
        simp only [echoed, waiting, Option.orElse_eq_orElse, Option.orElse_none, bind_eq_ok_iff,
          Db.createOrder_ok_iff, Pure.pure, Except.pure, Except.ok.injEq, Prod.mk.injEq]
          at resolves
        obtain ⟨_, ⟨-, unused, rfl⟩, rfl, rfl⟩ := resolves
        exact .inr ⟨_, _, rfl, .opened recorded echoed waiting unused⟩

theorem resolved_of_found
    (resolves : findOrCreateOrderForPayment db subscriptionId s payment provider fresh =
      .ok (mid, some (orderId, order))) :
    Resolved db subscriptionId s payment provider fresh mid orderId order := by
  rcases findOrCreateOrderForPayment_ok resolves with ⟨-, missing⟩ | ⟨_, _, same, resolved⟩
  · cases missing
  · cases same
    exact resolved

/-- An order a payment is resolved to was there already, or is a renewal opened for it. -/
theorem Resolved.origin
    (resolved : Resolved db subscriptionId s payment provider fresh mid orderId order) :
    (mid = db ∧ db.orders.get? orderId = some order) ∨
      ∃ unused : db.orders.get? fresh.id = none, orderId = fresh.id ∧
        order = recurringOrder subscriptionId s payment provider fresh.externalReference ∧
        mid = { db with
          orders := db.orders.add fresh.id
            (recurringOrder subscriptionId s payment provider fresh.externalReference) unused } := by
  cases resolved with
  | recorded recorded stored => exact .inl ⟨rfl, stored⟩
  | echoed unrecorded echoed => exact .inl ⟨rfl, referencedOrder_stored echoed⟩
  | waiting unrecorded unreferenced waiting => exact .inl ⟨rfl, untouchedInitialOrder_stored waiting⟩
  | opened unrecorded unreferenced touched unused => exact .inr ⟨unused, rfl, rfl, rfl⟩

theorem Resolved.frame
    (resolved : Resolved db subscriptionId s payment provider fresh mid orderId order) :
    mid.orders.get? orderId = some order ∧ mid.subscriptions = db.subscriptions ∧
      mid.servers = db.servers := by
  rcases resolved.origin with ⟨rfl, stored⟩ | ⟨unused, rfl, rfl, rfl⟩
  · exact ⟨stored, rfl, rfl⟩
  · exact ⟨by simp, rfl, rfl⟩

theorem applyPaymentOutcome_confirmed (stored : db.subscriptions.get? subscriptionId = some s)
    (resolves : findOrCreateOrderForPayment db subscriptionId s payment provider fresh =
      .ok (mid, some (orderId, order))) (unsettled : order.IsOpen)
    (amount : payment.amountCents = some order.amountCents) :
    applyPaymentOutcome db now subscriptionId .paymentConfirmed payment provider fresh =
      (restoreService (mid.markedPaid now s payment orderId) now subscriptionId s orderId
        order).map fun after =>
          (after, if order.provisioningStatus = .pending then some orderId else none) := by
  have found := (resolved_of_found resolves).frame.1
  have booked : (recordFromGateway mid orderId payment).updateOrder orderId (·.paid now s payment) =
      .ok { recordFromGateway mid orderId payment with
        orders := mid.orders.modify orderId (·.paid now s payment) } :=
    Db.updateOrder_ok_iff.mpr ⟨⟨order, found⟩, rfl⟩
  obtain ⟨unpaid, unrefunded, uncancelled⟩ := unsettled
  simp only [applyPaymentOutcome, stored, resolves, ok_bind, settleOrder, unpaid, unrefunded,
    uncancelled, or_self, false_and, if_false, confirmOrder, amount, ne_eq, not_true_eq_false,
    booked]
  rfl

/-- The webhook transaction resolves an order and settles it, or does nothing at all. -/
theorem applyPaymentOutcome_resolves
    (applies : applyPaymentOutcome db now subscriptionId event payment provider fresh =
      .ok (after, answer)) :
    (after = db ∧ answer = none) ∨ ∃ s mid orderId order,
      db.subscriptions.get? subscriptionId = some s ∧
      findOrCreateOrderForPayment db subscriptionId s payment provider fresh =
        .ok (mid, some (orderId, order)) ∧
      Settled mid now subscriptionId s event payment orderId order after answer := by
  unfold applyPaymentOutcome at applies
  cases stored : db.subscriptions.get? subscriptionId with
  | none =>
    simp only [stored] at applies
    cases applies
    exact .inl ⟨rfl, rfl⟩
  | some s =>
    simp only [stored, bind_eq_ok_iff] at applies
    obtain ⟨⟨mid, found⟩, resolves, settles⟩ := applies
    rcases findOrCreateOrderForPayment_ok resolves with ⟨rfl, rfl⟩ | ⟨id, order, rfl, resolved⟩
    · cases settles
      exact .inl ⟨rfl, rfl⟩
    · obtain ⟨stored', subscriptions, -⟩ := resolved.frame
      exact .inr ⟨s, mid, id, order, rfl, resolves,
        (settleOrder_yields (by rwa [subscriptions]) stored' event).of_ok settles⟩

theorem applyPaymentOutcome_ok
    (applies : applyPaymentOutcome db now subscriptionId event payment provider fresh =
      .ok (after, answer)) :
    (after = db ∧ answer = none) ∨ ∃ s mid orderId order,
      db.subscriptions.get? subscriptionId = some s ∧
      Resolved db subscriptionId s payment provider fresh mid orderId order ∧
      Settled mid now subscriptionId s event payment orderId order after answer := by
  rcases applyPaymentOutcome_resolves applies with unmoved | ⟨s, mid, id, order, stored, resolves,
    settled⟩
  · exact .inl unmoved
  · exact .inr ⟨s, mid, id, order, stored, resolved_of_found resolves, settled⟩

end PxHost
