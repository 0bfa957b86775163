import PxHost.System.RecurringCharge

/-! What becomes of money whose arrival a provider has confirmed. -/

namespace PxHost

open Fallible Machine

variable {db mid after : Db} {now : Time} {id : SubscriptionId} {s : Subscription}
  {payment : GatewayPayment} {provider : PaymentProviderName} {fresh : FreshOrder}
  {orderId : OrderId} {order : Order} {answer : Option OrderId}

/-- The charge is on record, or the transaction has reported its amount to be wrong. -/
def Accounted (db after : Db) (payment : GatewayPayment) : Prop :=
  (∃ row, after.payments.get? payment.id = some row) ∨
    ∃ order expected, after.auditLog =
      db.auditLog ++ [.amountMismatch order expected payment.amountCents payment.id]

/-- The charge is unknown, and it echoes the reference of an order that takes no money any more. -/
def PaysClosedOrder (db : Db) (payment : GatewayPayment) : Prop :=
  db.payments.get? payment.id = none ∧ ∃ found ∈ referencedOrder db payment,
    (found.2.status = .refunded ∨ found.2.status = .cancelled)

/-- A charge that is not on record is resolved to an order and settles it. -/
theorem applyPaymentOutcome_settles {event : InternalPaymentEvent}
    (stored : db.subscriptions.get? id = some s) (unrecorded : db.payments.get? payment.id = none)
    (applies : applyPaymentOutcome db now id event payment provider fresh = .ok (after, answer)) :
    ∃ mid orderId order, Resolved db id s payment provider fresh mid orderId order ∧
      Settled mid now id s event payment orderId order after answer := by
  simp only [applyPaymentOutcome, stored, bind_eq_ok_iff] at applies
  obtain ⟨⟨mid, found⟩, resolves, settles⟩ := applies
  cases found with
  | none =>
    -- Without a row of its own, the charge is given an order by one of the other rules.
    simp only [findOrCreateOrderForPayment, unrecorded] at resolves
    split at resolves
    · cases resolves
    · simp [bind_eq_ok_iff, Pure.pure, Except.pure] at resolves
  | some found =>
    have resolved := resolved_of_found resolves
    obtain ⟨stored', same, -⟩ := resolved.frame
    exact ⟨mid, found.1, found.2, resolved,
      (settleOrder_yields (by rw [same, stored]) stored' event).of_ok settles⟩

theorem applyPaymentOutcome_keeps_row {row : Payment}
    (recorded : db.payments.get? payment.id = some row)
    (applies : applyPaymentOutcome db now id .paymentConfirmed payment provider fresh =
      .ok (after, answer)) : ∃ row', after.payments.get? payment.id = some row' := by
  rcases applyPaymentOutcome_ok applies with ⟨rfl, -⟩ | ⟨s, mid, orderId, order, -, resolved, settled⟩
  · exact ⟨row, recorded⟩
  have same : mid.payments = db.payments := by
    rcases resolved.origin with ⟨rfl, -⟩ | ⟨_, -, -, rfl⟩ <;> rfl
  rcases settled.charge with written | ⟨kept, -⟩
  · obtain ⟨row', written', -⟩ := resolved.recorded_row
    exact ⟨row', by rw [written, written']⟩
  · exact ⟨row, by rw [kept, same, recorded]⟩

/-- An unrecorded charge that echoes an order is resolved to that order. -/
theorem Resolved.eq_referenced {found : OrderId × Order}
    (resolved : Resolved db id s payment provider fresh mid orderId order)
    (unrecorded : db.payments.get? payment.id = none)
    (referenced : referencedOrder db payment = some found) : found = (orderId, order) := by
  cases resolved with
  | recorded row => simp [unrecorded] at row
  | echoed _ echoed => exact Option.mem_unique referenced echoed
  | waiting _ unreferenced | opened _ unreferenced => simp [unreferenced] at referenced

/-- A confirmed charge is recorded for an order that still takes money, or reported. -/
theorem Settled.accounted (resolved : Resolved db id s payment provider fresh mid orderId order)
    (open_ : order.status ≠ .refunded ∧ order.status ≠ .cancelled)
    (settled : Settled mid now id s .paymentConfirmed payment orderId order after answer) :
    Accounted db after payment := by
  have sameLog : mid.auditLog = db.auditLog := by
    rcases resolved.origin with ⟨rfl, -⟩ | ⟨_, -, -, rfl⟩ <;> rfl
  obtain ⟨row, written, -⟩ := resolved.recorded_row
  cases settled with
  | repeated => exact .inl ⟨row, written⟩
  | mismatched unsettled confirmed amount =>
    exact .inr ⟨orderId, order.amountCents, by rw [← sameLog]; rfl⟩
  | confirmed unsettled confirmed amount restored =>
    exact .inl ⟨row, by rw [restored.frame.2.2]; exact written⟩
  | absorbed closed => exact absurd closed (by simp [open_])
  | unmoved unsettled idle => simp [InternalPaymentEvent.aboutMoney] at idle
  | refunded unsettled returned => simp at returned
  | noted _ waiting => cases waiting
  | cancelled _ cancelled => cases cancelled
  | rejected _ failed => cases failed

/--
A confirmed payment of a known subscription ends up on record or in a report, unless it echoes
the reference of an order that was cancelled or refunded and was never on record before.
-/
theorem confirmed_money_is_accounted_iff (db after : Db) (now : Time) (id : SubscriptionId)
    (payment : GatewayPayment) (provider : PaymentProviderName) (fresh : FreshOrder)
    (answer : Option OrderId)
    (known : findSubscriptionForPayment db payment provider = some id)
    (applies : applyPaymentOutcome db now id .paymentConfirmed payment provider fresh =
      .ok (after, answer)) :
    Accounted db after payment ↔ ¬ PaysClosedOrder db payment := by
  obtain ⟨s, stored⟩ := findSubscriptionForPayment_stored known
  cases recorded : db.payments.get? payment.id with
  | some row =>
    have kept := applyPaymentOutcome_keeps_row recorded applies
    simp [Accounted, PaysClosedOrder, kept, recorded]
  | none =>
    obtain ⟨mid, orderId, order, resolved, settled⟩ :=
      applyPaymentOutcome_settles stored recorded applies
    by_cases closed : order.status = .refunded ∨ order.status = .cancelled
    · -- Only an echoed reference leads to a closed order, and there the charge is dropped.
      have echoed : referencedOrder db payment = some (orderId, order) ∧ mid = db := by
        cases resolved with
        | recorded row => simp [recorded] at row
        | echoed _ echoed => exact ⟨echoed, rfl⟩
        | waiting _ _ waiting =>
          simp [untouchedInitialOrder_pending waiting] at closed
        | opened => simp [recurringOrder] at closed
      have dropped : after = db := by
        rw [settled.eq_of_closed closed, echoed.2]
      subst dropped
      have paysClosed : PaysClosedOrder after payment := ⟨recorded, _, echoed.1, closed⟩
      simp [Accounted, recorded, paysClosed]
    · have accounted := settled.accounted resolved (by simpa using closed)
      refine iff_of_true accounted ?_
      rintro ⟨-, found, echoed, shut⟩
      have same : found = (orderId, order) := resolved.eq_referenced recorded echoed
      subst same
      exact closed shut

/-- A customer authorizes a card, and then turns to pix while the card can still be charged. -/
def sampleSwitched : Db := run commit sampleShop.db [
  .createCheckoutOrder 0 1 { planId := 1, paymentMethod := .card } 20 ⟨10, "ord_a"⟩ none,
  .authorizeCard 10 20 "pre-1" "init",
  .createCheckoutOrder 1 1 { planId := 1, paymentMethod := .pix } 21 ⟨11, "ord_b"⟩ none]

/-- The card is charged, and the charge answers with the reference of one of the two orders. -/
def sampleApproved (reference : String) : GatewayPayment :=
  toGatewayPayment
    { id := "card-1", status := "approved", externalReference := some reference
      transactionAmount := some (299 / 10) }

/-- Money for the order that replaced the first one is recorded. -/
theorem sample_confirmed_money_is_accounted :
    Accounted sampleSwitched
      (applyOutcome sampleSwitched
        ⟨2, 21, .paymentConfirmed, sampleApproved "ord_b", .mercadopago, ⟨12, "ord_c"⟩⟩)
      (sampleApproved "ord_b") :=
  (confirmed_money_is_accounted_iff sampleSwitched _ 2 21 (sampleApproved "ord_b") .mercadopago
    ⟨12, "ord_c"⟩ (some 11) (by decide +kernel) (by decide +kernel)).mpr
    (by unfold PaysClosedOrder; decide +kernel)

/-- Money for the order the switch has cancelled leaves no trace. -/
theorem confirmed_money_is_dropped :
    classifyPayment .mercadopago (sampleApproved "ord_a") = .paymentConfirmed ∧
    findSubscriptionForPayment sampleSwitched (sampleApproved "ord_a") .mercadopago = some 20 ∧
    sampleSwitched.orderStatus 10 = some .cancelled ∧
    applyPaymentOutcome sampleSwitched 2 20 .paymentConfirmed (sampleApproved "ord_a") .mercadopago
      ⟨12, "ord_c"⟩ = .ok (sampleSwitched, none) ∧
    ¬ Accounted sampleSwitched sampleSwitched (sampleApproved "ord_a") := by
  refine ⟨by decide +kernel, by decide +kernel, by decide +kernel, by decide +kernel, ?_⟩
  have unrecorded : sampleSwitched.payments.get? (sampleApproved "ord_a").id = none := by
    decide +kernel
  simp [Accounted, unrecorded]

end PxHost
