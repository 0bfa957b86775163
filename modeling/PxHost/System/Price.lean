import PxHost.System.Notifications
import PxHost.System.PaidTime

/-! The price a billing period is bought at, and whose orders a charge pays. -/

namespace PxHost

open Store Fallible Machine
open Calendar (dayMs)

/--
A charge is only reported for the subscription it belongs to, echoes no reference of another one's
order, and opens an order for it at the price of the subscription.
-/
def Tx.isFair (owner : PaymentId → SubscriptionId) (db : Db) : Tx → Bool
  | .applyPaymentOutcome _ id _ payment provider fresh =>
    owner payment.id == id
      && (referencedOrder db payment).all (·.2.subscriptionId == some id)
      && (resolvedOrder db id payment provider fresh).all fun found =>
        (db.orders.get? found.1).isSome || (db.subscriptions.get? id).all fun s =>
          payment.amountCents.getD s.priceCents == s.priceCents
  | .recordCharge order charge =>
    (db.orders.get? order).any (·.subscriptionId == some (owner charge.id))
  | _ => true

/-- Orders cost what their subscriptions cost, and charges are on record for their own orders. -/
structure Priced (owner : PaymentId → SubscriptionId) (db : Db) : Prop where
  held : ∀ {id o sub}, db.orders.get? id = some o → o.subscriptionId = some sub →
    ∃ s, db.subscriptions.get? sub = some s
  price : ∀ {id o sub s}, db.orders.get? id = some o → o.subscriptionId = some sub →
    db.subscriptions.get? sub = some s → o.amountCents = s.priceCents
  charged : ∀ {charge row}, db.payments.get? charge = some row →
    ∃ o, db.orders.get? row.orderId = some o ∧ o.subscriptionId = some (owner charge)

variable {owner : PaymentId → SubscriptionId} {db mid after : Db} {now : Time} {tx : Tx}
  {id : SubscriptionId} {s : Subscription} {event : InternalPaymentEvent}
  {payment : GatewayPayment} {provider : PaymentProviderName} {fresh : FreshOrder}
  {orderId : OrderId} {order : Order}

section Orders

variable (fair : Tx.isFair owner db (.applyPaymentOutcome now id event payment provider fresh))

include fair in
theorem Resolved.belongs (priced : Priced owner db)
    (resolved : Resolved db id s payment provider fresh mid orderId order) :
    order.subscriptionId = some id := by
  simp only [Tx.isFair, Bool.and_eq_true, beq_iff_eq] at fair
  obtain ⟨⟨own, echoes⟩, -⟩ := fair
  -- Each rule of resolution comes by its order in its own way.
  cases resolved with
  | recorded recorded stored =>
    -- A charge on record was recorded for an order of its own subscription.
    obtain ⟨o, known, held⟩ := priced.charged recorded
    obtain rfl : o = order := by simpa [stored] using known.symm
    rw [held, own]
  | echoed unrecorded echoed => simpa [echoed] using echoes
  | waiting unrecorded unreferenced waiting =>
    -- The rule itself looks among the orders of the subscription.
    have matched := (Table.find?_some (Option.eq_some_of_filter_eq_some waiting)).2
    simp only [Bool.and_eq_true, beq_iff_eq] at matched
    exact matched.1.1
  | opened => rfl

include fair in
theorem Resolved.costs (priced : Priced owner db) (stored : db.subscriptions.get? id = some s)
    (resolves : findOrCreateOrderForPayment db id s payment provider fresh =
      .ok (mid, some (orderId, order))) :
    order.amountCents = s.priceCents := by
  have resolved := resolved_of_found resolves
  have belongs := resolved.belongs fair priced
  rcases resolved.origin with ⟨rfl, known⟩ | ⟨unused, rfl, rfl, rfl⟩
  · exact priced.price known belongs stored
  · -- The order is made out of the payment, so that fairness has to speak of its amount.
    simp only [Tx.isFair, Bool.and_eq_true] at fair
    have located := resolvedOrder_eq_some_iff.mpr ⟨s, _, stored, resolves⟩
    simpa [located, stored, unused, recurringOrder] using fair.2

end Orders

section Steps

theorem exec_price (executed : exec db tx = .ok after)
    (stored : db.subscriptions.get? id = some s) :
    ∃ s', after.subscriptions.get? id = some s' ∧ s'.priceCents = s.priceCents := by
  obtain ⟨s', stored', move⟩ := (exec_terms executed).moved stored
  exact ⟨s', stored', move.priceCents⟩

/-- A fair transaction opens an order only at the price of the subscription it is for. -/
theorem OpenedOrder.costs (priced : Priced owner db) (fair : tx.isFair owner db)
    (executed : exec db tx = .ok after) (missing : db.orders.get? orderId = none)
    (stored : after.orders.get? orderId = some order) :
    ∃ sub s', order.subscriptionId = some sub ∧ after.subscriptions.get? sub = some s' ∧
      order.amountCents = s'.priceCents := by
  cases (exec_purchases executed).created missing stored with
  -- A checkout and a renewal take the price from the subscription themselves.
  | checkout own kind new stored price => exact ⟨_, _, own, stored, price⟩
  | renewal called own kind stored price =>
    obtain ⟨s', stored', same⟩ := exec_price executed stored
    exact ⟨_, s', own, stored', by rw [price, same]⟩
  | recurring called own kind known resolves price =>
    subst called
    obtain ⟨s', stored', same⟩ := exec_price executed known
    exact ⟨_, s', own, stored', by rw [price, Resolved.costs fair priced known resolves, same]⟩

theorem ChargeSource.belongs (priced : Priced owner db) (fair : tx.isFair owner db)
    (executed : exec db tx = .ok after)
    (source : ChargeSource db after orderId payment tx) :
    ∃ o, after.orders.get? orderId = some o ∧ o.subscriptionId = some (owner payment.id) := by
  cases source with
  | recorded =>
    -- Recording the charge of an order that was just opened moves no order.
    obtain ⟨o, stored, held⟩ := (Option.any_eq_true ..).mp fair
    obtain ⟨o', stored', same⟩ := (exec_purchases executed).moved stored
    exact ⟨o', stored', same.subscriptionId.trans (by simpa using held)⟩
  | @settled _ id s _ _ _ mid order order' stored resolved kept same =>
    have own : owner payment.id = id := by
      simp only [Tx.isFair, Bool.and_eq_true, beq_iff_eq] at fair
      exact fair.1.1
    exact ⟨order', kept, by rw [same.subscriptionId, resolved.belongs fair priced, own]⟩

/-- A fair transaction keeps the orders at the prices of their subscriptions. -/
theorem exec_priced (priced : Priced owner db) (fair : tx.isFair owner db)
    (executed : exec db tx = .ok after) : Priced owner after := by
  -- Every order afterwards has a subscription of its own price, be it an old or a new one.
  have sold {orderId : OrderId} {o : Order} {sub : SubscriptionId}
      (stored : after.orders.get? orderId = some o) (held : o.subscriptionId = some sub) :
      ∃ s', after.subscriptions.get? sub = some s' ∧ o.amountCents = s'.priceCents := by
    cases known : db.orders.get? orderId with
    | none =>
      obtain ⟨sub', s', own, stored', price⟩ := OpenedOrder.costs priced fair executed known stored
      obtain rfl : sub' = sub := by simpa [held] using own.symm
      exact ⟨s', stored', price⟩
    | some before =>
      obtain ⟨_, kept, same⟩ := (exec_purchases executed).moved known
      obtain rfl := Option.mem_unique kept stored
      have held' : before.subscriptionId = some sub := by rw [← held, same.subscriptionId]
      obtain ⟨s, present⟩ := priced.held known held'
      obtain ⟨s', stored', price⟩ := exec_price executed present
      exact ⟨s', stored', by rw [same.amountCents, priced.price known held' present, price]⟩
  refine ⟨fun stored held => (sold stored held).imp fun _ => And.left, ?_, ?_⟩
  · intro orderId o sub s' stored held present
    obtain ⟨_, present', price⟩ := sold stored held
    obtain rfl := Option.mem_unique present' present
    exact price
  · -- A charge on record keeps its order, and a new one is recorded for one of its own.
    intro charge row recorded
    have stays {row : Payment} (known : db.payments.get? charge = some row) :
        ∃ o, after.orders.get? row.orderId = some o ∧ o.subscriptionId = some (owner charge) := by
      obtain ⟨o, stored, held⟩ := priced.charged known
      obtain ⟨o', stored', same⟩ := (exec_purchases executed).moved stored
      exact ⟨o', stored', same.subscriptionId.trans held⟩
    rcases exec_payments executed with same | ⟨orderId, payment, source, written⟩
    · exact stays (same ▸ recorded)
    -- The row in question is the one that was written, or one that was there.
    rw [written, recordFromGateway, Table.get?_upsert] at recorded
    split at recorded
    · rename_i own
      subst own
      cases known : db.payments.get? payment.id with
      | none =>
        obtain rfl : newPayment orderId payment = row := by simpa [known] using recorded
        exact source.belongs priced fair executed
      | some before =>
        -- A charge that is recorded again stays with the order it was recorded for.
        obtain rfl : before.updated payment = row := by simpa [known] using recorded
        have kept := stays known
        exact kept
    · exact stays recorded

end Steps

variable {answer : Option OrderId}

/-- A settlement that turns an order paid was for exactly its amount. -/
theorem Settled.amount {o : Order}
    (settled : Settled mid now id s event payment orderId order after answer)
    (found : mid.orders.get? orderId = some order) (unpaid : order.status ≠ .paid)
    (stored : after.orders.get? orderId = some o) (paid : o.status = .paid) :
    payment.amountCents = some order.amountCents := by
  obtain ⟨_, orders, booked⟩ := settled.booked found
  obtain rfl : _ = o := by simpa [orders, found] using stored
  -- Every other outcome leaves the order as it was or gives it another status.
  cases booked with
  | kept => exact absurd paid unpaid
  | paid unsettled confirmed amount => exact amount
  | refunded => cases paid
  | closed pending closes => rcases closes with rfl | rfl <;> cases paid

variable {sub : SubscriptionId}

theorem Settled.subscriptions_other
    (settled : Settled mid now id s event payment orderId order after answer)
    (found : mid.orders.get? orderId = some order) (known : mid.subscriptions.get? id = some s)
    (other : sub ≠ id) : after.subscriptions.get? sub = mid.subscriptions.get? sub := by
  obtain ⟨_, _, -, rows, -⟩ := settled.rows known found
  simp [rows, other]

/-- In a priced database, an order that a fair charge turns paid is paid at the right price. -/
theorem Priced.pays (priced : Priced owner db)
    (fair : Tx.isFair owner db (.applyPaymentOutcome now id event payment provider fresh))
    (applies : applyPaymentOutcome db now id event payment provider fresh = .ok (after, answer))
    {paidId : OrderId} {o : Order} (unpaid : db.orderStatus paidId ≠ some .paid)
    (stored : after.orders.get? paidId = some o) (paid : o.status = .paid) {row : Subscription}
    (held : db.subscriptions.get? sub = some row) (served : after.subscriptions.get? sub ≠ some row) :
    o.subscriptionId = some sub ∧ payment.amountCents = some row.priceCents := by
  rcases applyPaymentOutcome_resolves applies with
    ⟨rfl, -⟩ | ⟨s, mid, orderId, order, known, resolves, settled⟩
  · exact absurd held served
  have resolved := resolved_of_found resolves
  obtain ⟨found, same, -⟩ := resolved.frame
  have settles : Table.Evolves
      (OrderChange (.applyPaymentOutcome now id event payment provider fresh))
      (fun _ _ => True) mid.orders after.orders := settled.orders_evolve provider fresh found
  -- The subscription that was served is the one the payment was matched to.
  obtain rfl : sub = id := by
    by_contra other
    rw [settled.subscriptions_other found (by rw [same, known]) other, same] at served
    exact served held
  obtain rfl : s = row := by simpa [known] using held
  -- The order that turned paid is the one the payment was resolved to.
  obtain rfl : paidId = orderId := by
    by_contra other
    obtain ⟨_, orders, -⟩ := settled.booked found
    rw [orders, Table.get?_modify, if_neg other] at stored
    rcases resolved.origin with ⟨rfl, -⟩ | ⟨unused, rfl, -, rfl⟩
    · exact unpaid (by simp [Db.orderStatus, stored, paid])
    · rw [Table.get?_add, if_neg other] at stored
      exact unpaid (by simp [Db.orderStatus, stored, paid])
  -- It was not paid when the payment arrived, so that its amount was compared.
  have open' : order.status ≠ .paid := by
    rcases resolved.origin with ⟨rfl, -⟩ | ⟨unused, rfl, rfl, rfl⟩
    · simpa [Db.orderStatus, found] using unpaid
    · simp [recurringOrder]
  obtain ⟨o', stored', -, purchase⟩ := settles.moved found
  obtain rfl := Option.mem_unique stored' stored
  refine ⟨purchase.subscriptionId.trans (resolved.belongs fair priced), ?_⟩
  rw [settled.amount found open' stored paid, Resolved.costs fair priced known resolves]

theorem Priced.of_empty (orders : db.orders = .empty) (payments : db.payments = .empty) :
    Priced owner db where
  held := by simp [orders]
  price := by simp [orders]
  charged := by simp [payments]

theorem commit_priced (priced : Priced owner db) (fair : tx.isFair owner db) :
    Priced owner (commit db tx) :=
  commit_preserves priced fun _ => exec_priced priced fair

/--
Whenever a payment event turns an order paid and activates or extends a subscription, the order is
one of that subscription and the amount of the payment is its price, in every run in which charges
are fair: each belongs to one subscription, echoes no order of another, and opens one at the price.
-/
theorem period_is_bought_at_its_price (owner : PaymentId → SubscriptionId) (db : Db)
    (txs : List Tx) (now : Time) (id : SubscriptionId) (event : InternalPaymentEvent)
    (payment : GatewayPayment) (provider : PaymentProviderName) (fresh : FreshOrder)
    (orders : db.orders = .empty) (payments : db.payments = .empty)
    (fair : Guarded commit (fun db tx => tx.isFair owner db) db
      (txs ++ [.applyPaymentOutcome now id event payment provider fresh]))
    (orderId : OrderId) (o : Order) (sub : SubscriptionId) (s s' : Subscription)
    (unpaid : (run commit db txs).orderStatus orderId ≠ some .paid)
    (stored : (run commit db (txs ++ [.applyPaymentOutcome now id event payment provider fresh])
      ).orders.get? orderId = some o) (paid : o.status = .paid)
    (before : (run commit db txs).subscriptions.get? sub = some s)
    (after : (run commit db (txs ++ [.applyPaymentOutcome now id event payment provider fresh])
      ).subscriptions.get? sub = some s')
    (served : s'.status = .active ∧ s.status ≠ .active ∨
      s'.currentPeriodEndsAt ≠ s.currentPeriodEndsAt) :
    o.subscriptionId = some sub ∧ payment.amountCents = some s.priceCents := by
  -- Up to the last transaction, orders cost what their subscriptions cost.
  obtain ⟨earlier, last, -⟩ := guarded_append.mp fair
  have priced : Priced owner (run commit db txs) :=
    invariant_run (Priced owner) (fun _ _ priced fair => commit_priced priced fair)
      (.of_empty orders payments) earlier
  -- A payment that fails turns no order paid.
  rw [run_append, run_cons, run_nil, commit] at stored after
  split at stored
  · rename_i committed executed
    rw [executed] at after
    obtain ⟨_, applies⟩ := map_fst_eq_ok_iff.mp executed
    refine priced.pays last applies unpaid stored paid before fun same => ?_
    obtain rfl := Option.mem_unique after same
    rcases served with ⟨active, inactive⟩ | changed
    · exact inactive active
    · exact changed rfl
  · exact absurd (by simp [Db.orderStatus, stored, paid]) unpaid

def sampleFirstPayment : Tx :=
  .applyPaymentOutcome (59 * dayMs) 20 .paymentConfirmed (samplePaidPix "pix-1" "ord_a")
    .mercadopago ⟨11, "ord_b"⟩

theorem sample_period_is_bought_at_its_price :
    ∃ o s, (run commit sampleShop.db ([samplePixCheckout (59 * dayMs) 20 ⟨10, "ord_a"⟩] ++
        [sampleFirstPayment])).orders.get? 10 = some o ∧
      (run commit sampleShop.db [samplePixCheckout (59 * dayMs) 20 ⟨10, "ord_a"⟩]
        ).subscriptions.get? 20 = some s ∧ o.status = .paid ∧ o.subscriptionId = some 20 ∧
      (samplePaidPix "pix-1" "ord_a").amountCents = some s.priceCents := by
  have order : (run commit sampleShop.db ([samplePixCheckout (59 * dayMs) 20 ⟨10, "ord_a"⟩] ++
      [sampleFirstPayment])).orderStatus 10 = some .paid := by decide +kernel
  have pending : (run commit sampleShop.db [samplePixCheckout (59 * dayMs) 20 ⟨10, "ord_a"⟩]
      ).statusOf 20 = some .pending := by decide +kernel
  have active : (run commit sampleShop.db ([samplePixCheckout (59 * dayMs) 20 ⟨10, "ord_a"⟩] ++
      [sampleFirstPayment])).statusOf 20 = some .active := by decide +kernel
  obtain ⟨o, stored, paid⟩ := Option.map_eq_some_iff.mp order
  obtain ⟨s, before, unstarted⟩ := Option.map_eq_some_iff.mp pending
  obtain ⟨s', after, started⟩ := Option.map_eq_some_iff.mp active
  obtain ⟨belongs, price⟩ := period_is_bought_at_its_price (fun _ => 20) sampleShop.db
    [samplePixCheckout (59 * dayMs) 20 ⟨10, "ord_a"⟩] (59 * dayMs) 20 .paymentConfirmed
    (samplePaidPix "pix-1" "ord_a") .mercadopago ⟨11, "ord_b"⟩ rfl rfl (by decide +kernel) 10 o 20
    s s' (by decide +kernel) stored paid before after (.inl ⟨started, by simp [unstarted]⟩)
  exact ⟨o, s, stored, before, paid, belongs, price⟩

def sampleCardCharge (id : String) (amountCents : Int) (reference : Option String) : GatewayPayment :=
  { id, status := "approved", subscriptionExternalId := some "pre-1"
    externalReference := reference, amountCents := some amountCents }

/-- The same customer also has an unpaid order of a cheaper plan, and is late with the card. -/
def sampleLateCard : Db :=
  run commit { sampleMarchCard with
      plans := sampleMarchCard.plans.add 2 { samplePlan with priceCents := 500 }
        (by decide +kernel) } [
    .createCheckoutOrder (60 * dayMs) 1 { planId := 2, paymentMethod := .pix } 21 ⟨13, "ord_z"⟩ none,
    .updateStatusAsAdmin (60 * dayMs) 20 .pastDue none 2]

/-- The next month of the card is charged, and the card reports another amount. -/
def sampleCheaplyBought : Db :=
  run commit sampleMarchCard [.applyPaymentOutcome (89 * dayMs) 20 .paymentConfirmed
    (sampleCardCharge "card-2" 100 none) .mercadopago ⟨12, "ord_r"⟩]

/-- A charge on the late card echoes the reference of the other order. -/
def sampleWronglyReopened : Db :=
  run commit sampleLateCard [.applyPaymentOutcome (61 * dayMs) 20 .paymentConfirmed
    (sampleCardCharge "card-3" 500 (some "ord_z")) .mercadopago ⟨14, "ord_s"⟩]

/--
A month of a subscription for 2990 is bought by a charge of 100, which opens an order of its own
amount. A late subscription is reopened by a charge of 500 for the order of another subscription.
-/
theorem period_is_bought_below_its_price :
    findSubscriptionForPayment sampleMarchCard (sampleCardCharge "card-2" 100 none)
      .mercadopago = some 20 ∧
    (sampleMarchCard.subscriptions.get? 20).map (·.priceCents) = some 2990 ∧
    sampleMarchCard.paidUntil 20 = some (90 * dayMs) ∧
    sampleCheaplyBought.orderStatus 12 = some .paid ∧
    sampleCheaplyBought.paidUntil 20 = some (120 * dayMs) ∧
    findSubscriptionForPayment sampleLateCard (sampleCardCharge "card-3" 500 (some "ord_z"))
      .mercadopago = some 20 ∧
    sampleLateCard.statusOf 20 = some .pastDue ∧
    sampleWronglyReopened.statusOf 20 = some .active ∧
    sampleWronglyReopened.orderStatus 13 = some .paid ∧
    (sampleWronglyReopened.orders.get? 13).map (·.subscriptionId) = some (some 21) := by
  decide +kernel

end PxHost
