import PxHost.System.SubscriptionLaws

/-! The charges that are recorded for an order. -/

namespace PxHost

open Store Fallible

variable {db after : Db} {now : Time} {tx : Tx} {id : SubscriptionId} {s : Subscription}
  {orderId : OrderId} {order : Order} {payment : GatewayPayment} {event : InternalPaymentEvent}
  {answer : Option OrderId}

/-- The charge is recorded, but for a cancelled one and one that changes no order at all. -/
theorem Settled.charge
    (settled : Settled db now id s event payment orderId order after answer) :
    after.payments = (recordFromGateway db orderId payment).payments ∨
      after.payments = db.payments ∧ (event = .paymentCanceled ∨ ¬ event.aboutMoney ∨
        after.orders = db.orders ∧ (order.status = .refunded ∨ order.status = .cancelled ∨
          event = .paymentConfirmed ∧ payment.amountCents ≠ some order.amountCents)) := by
  cases settled with
  | absorbed closed => exact .inr ⟨rfl, .inr (.inr ⟨rfl, closed.imp_right .inl⟩)⟩
  | repeated | noted => exact .inl rfl
  | mismatched unsettled confirmed amount =>
    exact .inr ⟨rfl, .inr (.inr ⟨rfl, .inr (.inr ⟨confirmed, amount⟩)⟩)⟩
  | confirmed unsettled confirmed amount restored => exact .inl restored.frame.2.2
  | refunded unsettled returned reason stopped =>
    exact .inl (stopped.frame.1.payments.trans (transitionedIfAllowed_frame ..).2.2)
  | cancelled pending called => exact .inr ⟨rfl, .inl called⟩
  | rejected unsettled failed => exact .inl (rejected_frame ..).2.2
  | unmoved unsettled idle => exact .inr ⟨rfl, idle.imp And.left .inl⟩

/-- How a transaction came by the order it records a charge for; that order is there afterwards. -/
inductive ChargeSource (db after : Db) (orderId : OrderId) (payment : GatewayPayment) :
    Tx → Prop where
  | recorded : ChargeSource db after orderId payment (.recordCharge orderId payment)
  | settled {now : Time} {id : SubscriptionId} {s : Subscription} {event : InternalPaymentEvent}
      {provider : PaymentProviderName} {fresh : FreshOrder} {mid : Db} {order order' : Order}
      (stored : db.subscriptions.get? id = some s)
      (resolved : Resolved db id s payment provider fresh mid orderId order)
      (kept : after.orders.get? orderId = some order') (same : order.SamePurchase order') :
    ChargeSource db after orderId payment
      (.applyPaymentOutcome now id event payment provider fresh)

/-- A transaction leaves the charges as they are, or records one it was called with. -/
theorem exec_payments (executed : exec db tx = .ok after) :
    after.payments = db.payments ∨ ∃ orderId payment, ChargeSource db after orderId payment tx ∧
      after.payments = (recordFromGateway db orderId payment).payments := by
  cases tx with
  | applyPaymentOutcome now subscription event payment provider fresh =>
    obtain ⟨_, applies⟩ := map_fst_eq_ok_iff.mp executed
    rcases applyPaymentOutcome_ok applies with
      ⟨rfl, -⟩ | ⟨s, mid, orderId, order, stored, resolved, settled⟩
    · exact .inl rfl
    -- Resolving opens at most an order, so the charges are still those of the database.
    have untouched : mid.payments = db.payments := by
      rcases resolved.origin with ⟨rfl, -⟩ | ⟨_, -, -, rfl⟩ <;> rfl
    refine settled.charge.symm.imp (·.1.trans untouched) fun written => ?_
    have settles : Table.Evolves
        (OrderChange (.applyPaymentOutcome now subscription event payment provider fresh))
        (fun _ _ => True) mid.orders after.orders :=
      settled.orders_evolve provider fresh resolved.frame.1
    obtain ⟨order', kept, -, same⟩ := settles.moved resolved.frame.1
    exact ⟨orderId, payment, .settled stored resolved kept same.toSamePurchase, by
      rw [written, recordFromGateway, recordFromGateway, untouched]⟩
  | recordCharge order charge =>
    cases executed
    exact .inr ⟨order, charge, .recorded, rfl⟩
  -- No other transaction writes to the charges.
  | _ => exact .inl ((exec_ledger executed).payments rfl)

end PxHost
