import PxHost.System.History
import PxHost.System.Recovery

/-! Refunds of one charge of an order for which other charges were paid as well. -/

namespace PxHost

open Fallible Machine

/-- The charge was approved, and its money has not been returned or charged back. -/
def Payment.stands (provider : PaymentProviderName) (row : Payment) : Bool :=
  classifyPayment provider { id := "", status := row.status } == .paymentConfirmed

def Db.hasOtherMoney (db : Db) (orderId : OrderId) (provider : PaymentProviderName)
    (charge : PaymentId) : Bool :=
  (db.payments.find? fun other row =>
    other != charge && row.orderId == orderId && row.stands provider).isSome

/-- Neither the order turns refunded, nor the subscription or its server suspended. -/
structure KeepsPurchase (db after : Db) (id : SubscriptionId) (orderId : OrderId) : Prop where
  order : after.orderStatus orderId = some .refunded → db.orderStatus orderId = some .refunded
  subscription : after.statusOf id = some .suspended → db.statusOf id = some .suspended
  server : ∀ s ∈ db.subscriptions.get? id, ∀ server ∈ s.serverId,
    after.serverStatus server = some .suspended → db.serverStatus server = some .suspended

theorem KeepsPurchase.refl (db : Db) (id : SubscriptionId) (orderId : OrderId) :
    KeepsPurchase db db id orderId :=
  ⟨fun same => same, fun same => same, fun _ _ _ _ same => same⟩

section Refund

variable {db mid after : Db} {now : Time} {id : SubscriptionId} {s : Subscription}
  {event : InternalPaymentEvent} {payment : GatewayPayment} {orderId : OrderId} {order : Order}
  {answer : Option OrderId}

/-- A returned charge leaves its order refunded, whatever else was paid for it. -/
theorem Settled.refunds (returned : event = .paymentRefunded ∨ event = .paymentChargeback)
    (found : mid.orders.get? orderId = some order)
    (unclosed : ¬(order.status = .refunded ∨ order.status = .cancelled))
    (settled : Settled mid now id s event payment orderId order after answer) :
    after.orderStatus orderId = some .refunded := by
  obtain ⟨reason, stopped⟩ := settled.stops returned unclosed
  -- Whether or not the server could be stopped, the order was marked before that.
  have orders := stopped.frame.1.orders.trans (transitionedIfAllowed_frame ..).2.1
  rw [Db.orderStatus, orders]
  simp [found]

end Refund

/--
Processing the refund of a charge leaves an order that has other money, its subscription and its
server alone exactly when there is no such money or the order is refunded or cancelled already.
-/
theorem refund_respects_other_money_iff (db after : Db) (now : Time) (id : SubscriptionId)
    (event : InternalPaymentEvent) (payment : GatewayPayment) (provider : PaymentProviderName)
    (fresh : FreshOrder) (answer : Option OrderId) (orderId : OrderId) (order : Order)
    (returned : event = .paymentRefunded ∨ event = .paymentChargeback)
    (resolves : resolvedOrder db id payment provider fresh = some (orderId, order))
    (applies : applyPaymentOutcome db now id event payment provider fresh = .ok (after, answer)) :
    (db.hasOtherMoney orderId order.provider payment.id → KeepsPurchase db after id orderId) ↔
      ¬db.hasOtherMoney orderId order.provider payment.id ∨
        order.status = .refunded ∨ order.status = .cancelled := by
  -- The transaction is taken apart into the matching of the payment and its settlement.
  obtain ⟨s, mid, stored, resolves⟩ := resolvedOrder_eq_some_iff.mp resolves
  have resolved := resolved_of_found resolves
  obtain ⟨found, same, -⟩ := resolved.frame
  simp only [applyPaymentOutcome, stored, resolves, ok_bind] at applies
  have settled : Settled mid now id s event payment orderId order after answer :=
    (settleOrder_yields (by rw [same, stored]) found event).of_ok applies
  by_cases closed : order.status = .refunded ∨ order.status = .cancelled
  · -- A closed order was there before, and takes no event any more.
    have untouched : after = db := by
      rw [settled.eq_of_closed closed]
      rcases resolved.origin with ⟨same, -⟩ | ⟨-, -, rfl, -⟩
      · exact same
      · simp [recurringOrder] at closed
    subst untouched
    exact iff_of_true (fun _ => .refl ..) (.inr closed)
  · refine ⟨fun respects => ?_, ?_⟩
    · left
      intro money
      -- The order is marked all the same, so it would have had to be refunded before.
      have marked := (respects money).order (settled.refunds returned found closed)
      rcases resolved.origin with ⟨-, known⟩ | ⟨unused, rfl, -, -⟩
      · exact closed (.inl (by simpa [Db.orderStatus, known] using marked))
      · simp [Db.orderStatus, unused] at marked
    · rintro (none | shut)
      · exact fun money => absurd money none
      · exact absurd shut closed

/-- The customer pays the first order, which is delivered already, once more. -/
def samplePaidTwice : Db :=
  run commit samplePanel (sampleCustomerServer ++ [
    .applyPaymentOutcome 4000 20 .paymentConfirmed
      { samplePix with id := "pix-2", status := "approved" } .mercadopago ⟨12, "ord_c"⟩])

def sampleReturned : GatewayPayment := { samplePix with status := "refunded" }

def sampleReturnedOnce : Db :=
  commit samplePaidTwice
    (.applyPaymentOutcome 5000 20 .paymentRefunded sampleReturned .mercadopago ⟨12, "ord_c"⟩)

/-- The notification of the refund is delivered a second time, and finds the order refunded. -/
theorem sample_refund_respects_other_money_iff :
    ∃ after answer, applyPaymentOutcome sampleReturnedOnce 6000 20 .paymentRefunded sampleReturned
        .mercadopago ⟨12, "ord_c"⟩ = .ok (after, answer) ∧
      sampleReturnedOnce.hasOtherMoney 10 .mercadopago "pix-1" ∧
      KeepsPurchase sampleReturnedOnce after 20 10 := by
  have located : (resolvedOrder sampleReturnedOnce 20 sampleReturned .mercadopago ⟨12, "ord_c"⟩).map
      (fun found => (found.1, found.2.provider, found.2.status)) =
        some (10, .mercadopago, .refunded) := by decide +kernel
  have succeeds : (applyPaymentOutcome sampleReturnedOnce 6000 20 .paymentRefunded sampleReturned
      .mercadopago ⟨12, "ord_c"⟩).isOk := by decide +kernel
  have money : sampleReturnedOnce.hasOtherMoney 10 .mercadopago "pix-1" := by decide +kernel
  obtain ⟨⟨orderId, order⟩, resolves, same⟩ := Option.map_eq_some_iff.mp located
  simp only [Prod.mk.injEq] at same
  obtain ⟨rfl, provider, refunded⟩ := same
  cases applies : applyPaymentOutcome sampleReturnedOnce 6000 20 .paymentRefunded sampleReturned
      .mercadopago ⟨12, "ord_c"⟩ with
  | error e => simp [applies, Except.isOk, Except.toBool] at succeeds
  | ok result =>
    refine ⟨result.1, result.2, rfl, money, ?_⟩
    apply (refund_respects_other_money_iff sampleReturnedOnce result.1 6000 20 .paymentRefunded
      sampleReturned .mercadopago ⟨12, "ord_c"⟩ result.2 10 order (.inl rfl) resolves applies).mpr
      (.inr (.inl refunded))
    rw [provider]
    exact money

/-- Two charges of one order were approved. The first is returned, and the order counts as refunded
    and service ends, although the second still stands. -/
theorem refund_ignores_other_money :
    samplePaidTwice.hasOtherMoney 10 .mercadopago "pix-1" ∧
    samplePaidTwice.orderStatus 10 = some .paid ∧
    samplePaidTwice.statusOf 20 = some .active ∧
    samplePaidTwice.serverStatus 1 = some .ready ∧
    sampleReturnedOnce.hasOtherMoney 10 .mercadopago "pix-1" ∧
    sampleReturnedOnce.orderStatus 10 = some .refunded ∧
    sampleReturnedOnce.statusOf 20 = some .suspended ∧
    sampleReturnedOnce.serverStatus 1 = some .suspended := by
  decide +kernel

end PxHost
