import PxHost.System.Notifications

/-! What a notification does that has been worked off before. -/

namespace PxHost

open Store Fallible Machine

/-- The orders, the subscriptions and their history are the same. -/
structure SameBooks (db after : Db) : Prop where
  orders : after.orders = db.orders
  subscriptions : after.subscriptions = db.subscriptions
  subscriptionEvents : after.subscriptionEvents = db.subscriptionEvents

instance (db after : Db) : Decidable (SameBooks db after) :=
  decidable_of_iff (after.orders = db.orders ∧ after.subscriptions = db.subscriptions ∧
      after.subscriptionEvents = db.subscriptionEvents)
    ⟨fun ⟨a, b, c⟩ => ⟨a, b, c⟩, fun ⟨a, b, c⟩ => ⟨a, b, c⟩⟩

theorem SameBooks.refl (db : Db) : SameBooks db db := ⟨rfl, rfl, rfl⟩

section Lookups

variable {db mid after : Db} {now : Time} {id : SubscriptionId} {s : Subscription}
  {event : InternalPaymentEvent} {payment : GatewayPayment} {provider : PaymentProviderName}
  {fresh : FreshOrder} {orderId : OrderId} {order order' : Order} {answer : Option OrderId}

theorem Quiet.books (quiet : Quiet event payment order s)
    (settled : Settled db now id s event payment orderId order after answer) :
    SameBooks db after := by
  cases settled with
  | absorbed | repeated | noted | mismatched | unmoved => exact ⟨rfl, rfl, rfl⟩
  | confirmed unsettled confirmed amount =>
    subst confirmed
    exact absurd amount (quiet unsettled)
  | refunded unsettled returned =>
    have closed : order.status = .refunded ∨ order.status = .cancelled := by
      rcases returned with rfl | rfl <;> exact quiet
    exact absurd closed (by simp [unsettled])
  | cancelled pending called =>
    subst called
    exact absurd pending quiet
  | rejected unsettled failed =>
    subst failed
    obtain ⟨late, settled⟩ := quiet
    unfold Db.rejected
    by_cases renewal : order.kind = .planRenewal
    · have refused := settled unsettled renewal
      simp only [late, renewal, if_true, if_false, Db.transitionedIfAllowed, refused]
      exact ⟨rfl, rfl, rfl⟩
    · simp only [late, renewal, if_false]
      exact ⟨rfl, rfl, rfl⟩

/-- A lookup that only reads the deal of an order finds the same order once one was replaced. -/
theorem find?_order_of_replaced {p : Order → Bool} (blind : ∀ o o', Order.SameDeal o o' → p o' = p o)
    (found : mid.orders.get? orderId = some order) (deal : Order.SameDeal order order')
    (rows : after.orders = mid.orders.modify orderId fun _ => order') :
    after.orders.find? (fun _ => p) = (mid.orders.find? fun _ => p).map fun row =>
      (row.1, if row.1 == orderId then order' else row.2) := by
  rw [rows]
  refine Table.find?_modify ?_
  intro o same
  obtain rfl : order = o := by simpa [found] using same
  exact blind order order' deal

theorem Resolved.recorded_row (resolved : Resolved db id s payment provider fresh mid orderId order) :
    ∃ row, (recordFromGateway mid orderId payment).payments.get? payment.id = some row ∧
      row.orderId = orderId := by
  cases resolved with
  | @recorded row _ recorded stored =>
    -- A later report rewrites the money in the row, but never its order.
    exact ⟨row.updated payment, by simp [recordFromGateway, recorded], rfl⟩
  | echoed unrecorded | waiting unrecorded | opened unrecorded =>
    exact ⟨newPayment _ payment, by simp [recordFromGateway, unrecorded], rfl⟩

theorem Resolved.find?_order (resolved : Resolved db id s payment provider fresh mid orderId order)
    {p : OrderId → Order → Bool} {row : OrderId × Order} (located : db.orders.find? p = some row) :
    mid.orders.find? p = some row := by
  rcases resolved.origin with ⟨rfl, -⟩ | ⟨unused, -, -, rfl⟩
  · exact located
  · rw [Table.find?_add, located]
    rfl

theorem referencedOrder_replaced (payment : GatewayPayment) (found : mid.orders.get? orderId = some order)
    (deal : Order.SameDeal order order')
    (rows : after.orders = mid.orders.modify orderId fun _ => order') :
    referencedOrder after payment = (referencedOrder mid payment).map fun row =>
      (row.1, if row.1 == orderId then order' else row.2) := by
  unfold referencedOrder
  cases truthy payment.externalReference with
  | none => rfl
  | some reference =>
    exact find?_order_of_replaced (p := fun o => o.externalReference == reference)
      (fun o o' same => by rw [same.externalReference]) found deal rows

/-- A charge that found its subscription still finds it once its order has been settled. -/
theorem findSubscriptionForPayment_again (stored : db.subscriptions.get? id = some s)
    (resolved : Resolved db id s payment provider fresh mid orderId order)
    (settled : Settled mid now id s event payment orderId order after answer)
    (known : findSubscriptionForPayment db payment provider = some id) :
    findSubscriptionForPayment after payment provider = some id := by
  obtain ⟨found, subscriptions, -⟩ := resolved.frame
  have stored' : mid.subscriptions.get? id = some s := by rw [subscriptions, stored]
  obtain ⟨order', s', orders, rows, treated⟩ := settled.rows stored' found
  rw [subscriptions] at rows
  unfold findSubscriptionForPayment at known ⊢
  split at known
  · -- The preapproval is a column that settling an order does not write.
    rename_i externalId sent
    rw [rows, Table.find?_modify]
    · simpa [Function.comp_def] using known
    · intro row same
      obtain rfl : s = row := by simpa [stored] using same
      rw [treated.sameMandate.externalSubscriptionId, treated.sameMandate.paymentProvider]
  · simp only [Option.bind_eq_bind, Option.bind_eq_some_iff] at known ⊢
    obtain ⟨reference, sent, ⟨key, o⟩, located, owner, owned, present⟩ := known
    obtain ⟨_, -, rfl⟩ := Option.map_eq_some_iff.mp present
    have moved := find?_order_of_replaced
      (p := fun o => o.externalReference == reference && o.provider == provider)
      (fun o o' same => by rw [same.externalReference, same.provider]) found treated.sameDeal orders
    have located' := resolved.find?_order located
    refine ⟨reference, sent, _, by rw [moved, located']; rfl, owner, ?_, ?_⟩
    · -- The order may be the one that was settled, but it is still sold to the same subscription.
      dsimp only
      split
      · rename_i same
        obtain rfl : key = orderId := by simpa using same
        obtain rfl : order = o := by simpa [found] using (Table.find?_some located').1
        rw [treated.sameDeal.subscriptionId, owned]
      · exact owned
    · simp [rows, stored]

/--
Nothing leads from the charge to an order, and applying it records nothing either: it is cancelled,
or it is approved without an amount and there is no first order waiting for it.
-/
def Untraced (db : Db) (id : SubscriptionId) (event : InternalPaymentEvent)
    (payment : GatewayPayment) : Prop :=
  db.payments.get? payment.id = none ∧ referencedOrder db payment = none ∧
    (event = .paymentCanceled ∨ event = .paymentConfirmed ∧ payment.amountCents = none ∧
      untouchedInitialOrder db id = none)

instance (db : Db) (id : SubscriptionId) (event : InternalPaymentEvent) (payment : GatewayPayment) :
    Decidable (Untraced db id event payment) :=
  inferInstanceAs (Decidable (_ ∧ _ ∧ _))

theorem untouchedInitialOrder_pending (waiting : untouchedInitialOrder db id = some (orderId, order)) :
    order.status = .pending := by
  have matched := (Table.find?_some (Option.eq_some_of_filter_eq_some waiting)).2
  simp only [Bool.and_eq_true, beq_iff_eq] at matched
  exact matched.2

/-- Any other charge is resolved to the same order when it is delivered again. -/
theorem resolves_again (money : event.aboutMoney) (traced : ¬ Untraced db id event payment)
    (stored : db.subscriptions.get? id = some s)
    (resolved : Resolved db id s payment provider fresh mid orderId order)
    (settled : Settled mid now id s event payment orderId order after answer)
    (found' : after.orders.get? orderId = some order') (s' : Subscription) (fresh' : FreshOrder) :
    findOrCreateOrderForPayment after id s' payment provider fresh' =
      .ok (after, some (orderId, order')) := by
  have byRow {row : Payment} (recorded : after.payments.get? payment.id = some row)
      (same : row.orderId = orderId) :
      findOrCreateOrderForPayment after id s' payment provider fresh' =
        .ok (after, some (orderId, order')) := by
    rw [findOrCreateOrderForPayment_recorded recorded, same, found']
    rfl
  rcases settled.charge with recorded | ⟨unrecorded, silent⟩
  · -- The row written for the charge leads back to its order.
    obtain ⟨row, written, same⟩ := resolved.recorded_row
    exact byRow (recorded ▸ written) same
  replace silent := silent.imp_right (Or.resolve_left · (not_not.mpr money))
  obtain ⟨found, subscriptions, -⟩ := resolved.frame
  cases resolved with
  | recorded recorded => exact byRow (unrecorded ▸ recorded) rfl
  | echoed missing echoed =>
    obtain ⟨replaced, _, orders, -, treated⟩ := settled.rows stored found
    obtain rfl : replaced = order' := by simpa [orders, found] using found'
    have leads := referencedOrder_replaced payment found treated.sameDeal orders
    exact findOrCreateOrderForPayment_first (unrecorded ▸ missing) (by simp [leads, echoed])
  | waiting missing unreferenced waiting =>
    have pending := untouchedInitialOrder_pending waiting
    rcases silent with called | ⟨orders, closed | closed | ⟨-, -⟩⟩
    · exact absurd ⟨missing, unreferenced, .inl called⟩ traced
    · simp [pending] at closed
    · simp [pending] at closed
    · -- An approval of the wrong amount leaves the first order waiting.
      obtain rfl : order = order' := by simpa [orders, found] using found'
      refine findOrCreateOrderForPayment_first (unrecorded ▸ missing) ?_
      simpa [referencedOrder, untouchedInitialOrder, orders, unrecorded] using
        (by simp [unreferenced, waiting] :
          (referencedOrder db payment <|> untouchedInitialOrder db id) = some (orderId, order))
  | opened missing unreferenced touched unused =>
    rcases silent with called | ⟨orders, closed | closed | ⟨confirmed, amount⟩⟩
    · exact absurd ⟨missing, unreferenced, .inl called⟩ traced
    · cases closed
    · cases closed
    · -- The new order asks for the amount of the charge, unless the charge has none.
      have unpriced : payment.amountCents = none := by
        cases price : payment.amountCents with
        | none => rfl
        | some cents => simp [recurringOrder, price] at amount
      exact absurd ⟨missing, unreferenced, .inr ⟨confirmed, unpriced, touched⟩⟩ traced

/-- An approval of a pending order is a mismatch that is only audited, or it restores the service. -/
theorem Settled.of_confirmed (confirmed : event = .paymentConfirmed) (pending : order.status = .pending)
    (settled : Settled db now id s event payment orderId order after answer) :
    (payment.amountCents ≠ some order.amountCents ∧ after = db.record
        (.amountMismatch orderId order.amountCents payment.amountCents payment.id)) ∨
      payment.amountCents = some order.amountCents ∧
        Restored (db.markedPaid now s payment orderId) now id s orderId order after := by
  subst confirmed
  cases settled with
  | mismatched _ _ amount => exact .inl ⟨amount, rfl⟩
  | confirmed _ _ amount restored => exact .inr ⟨amount, restored⟩
  | absorbed closed => simp [pending] at closed
  | repeated paid => simp [pending] at paid
  | unmoved unsettled idle => simp [InternalPaymentEvent.aboutMoney] at idle
  | refunded unsettled returned => simp at returned
  | noted _ waiting => cases waiting
  | cancelled _ cancelled => cases cancelled
  | rejected _ failed => cases failed

theorem Settled.unpriced (confirmed : event = .paymentConfirmed)
    (unpriced : payment.amountCents = none) (pending : order.status = .pending)
    (settled : Settled db now id s event payment orderId order after answer) :
    after = db.record
      (.amountMismatch orderId order.amountCents payment.amountCents payment.id) := by
  rcases settled.of_confirmed confirmed pending with ⟨-, audited⟩ | ⟨amount, -⟩
  · exact audited
  · simp [unpriced] at amount

theorem referencedOrder_none_again (drawn : fresh.NewTo db payment)
    (stored : db.subscriptions.get? id = some s)
    (resolved : Resolved db id s payment provider fresh mid orderId order)
    (settled : Settled mid now id s event payment orderId order after answer)
    (missing : referencedOrder db payment = none) : referencedOrder after payment = none := by
  obtain ⟨found, subscriptions, -⟩ := resolved.frame
  have stored' : mid.subscriptions.get? id = some s := by rw [subscriptions, stored]
  obtain ⟨order', _, orders, -, treated⟩ := settled.rows stored' found
  rw [referencedOrder_replaced payment found treated.sameDeal orders, Option.map_eq_none_iff]
  rcases resolved.origin with ⟨rfl, -⟩ | ⟨unused, -, -, rfl⟩
  · exact missing
  · simp only [referencedOrder, Option.bind_eq_bind, Option.bind_eq_none_iff] at missing ⊢
    intro reference sent
    have different : fresh.externalReference ≠ reference := by
      rintro rfl
      exact drawn.unheard (Option.eq_some_of_filter_eq_some sent)
    simp [Table.find?_add, missing reference sent, recurringOrder, different]

end Lookups

section Twice

variable {db : Db} {d : Delivery} {id : SubscriptionId}

/-- The same notification at another time, with other identifiers at hand. -/
def Delivery.again (d : Delivery) (now : Time) (fresh : FreshOrder) : Delivery :=
  { d with now, fresh }

/-- An untraced charge writes an order whenever it is delivered, and stays untraced. -/
theorem deliver_untraced (linked : Linked db) (drawn : d.fresh.NewTo db d.payment)
    (known : findSubscriptionForPayment db d.payment d.provider = some id)
    (untraced : Untraced db id d.event d.payment) :
    (deliver db d).orders ≠ db.orders ∧ Untraced (deliver db d) id d.event d.payment ∧
      findSubscriptionForPayment (deliver db d) d.payment d.provider = some id := by
  obtain ⟨missing, unreferenced, silent⟩ := untraced
  obtain ⟨s, stored⟩ := findSubscriptionForPayment_stored known
  have heard : d.event ≠ .ignored := by
    rcases silent with called | ⟨called, -⟩ <;> rw [called] <;> exact nofun
  rcases findOrCreateOrderForPayment_succeeds s d.provider drawn with
    ⟨mid, orderId, order, resolves⟩ | ⟨row, recorded, -⟩
  swap
  · simp [missing] at recorded
  obtain ⟨answer, settled⟩ := deliver_settles linked heard known stored resolves
  have resolved := resolved_of_found resolves
  have unreferenced' := referencedOrder_none_again drawn stored resolved settled unreferenced
  have known' := findSubscriptionForPayment_again stored resolved settled known
  generalize deliver db d = after at settled unreferenced' known' ⊢
  have untouched : mid.payments = db.payments := by
    rcases resolved.origin with ⟨rfl, -⟩ | ⟨_, -, -, rfl⟩ <;> rfl
  rcases silent with called | ⟨called, unpriced, touched⟩
  · have pending : order.status = .pending := by
      cases resolved with
      | recorded recorded => simp [missing] at recorded
      | echoed _ echoed => simp [unreferenced] at echoed
      | waiting _ _ waiting => exact untouchedInitialOrder_pending waiting
      | opened => rfl
    rw [called] at settled
    -- A pending order can only be cancelled by such a charge, and the charge is not recorded.
    have cancels : after = { mid with
        orders := mid.orders.modify orderId fun o => { o with status := .cancelled } } := by
      cases settled with
      | cancelled => rfl
      | absorbed closed => simp [pending] at closed
      | repeated paid => simp [pending] at paid
      | unmoved unsettled idle => simp [pending, InternalPaymentEvent.aboutMoney] at idle
      | refunded unsettled returned => simp at returned
      | noted _ waiting => cases waiting
      | mismatched _ confirmed | confirmed _ confirmed => cases confirmed
      | rejected _ failed => cases failed
    refine ⟨?_, ⟨by rw [cancels]; exact untouched ▸ missing, unreferenced', .inl called⟩, known'⟩
    intro same
    have row : db.orders.get? orderId = some { order with status := .cancelled } := by
      rw [← same, cancels]
      simp [resolved.frame.1]
    rcases resolved.origin with ⟨-, before⟩ | ⟨unused, rfl, -, -⟩
    · have kept := congrArg Order.status (Option.mem_unique before row)
      simp [pending] at kept
    · simp [unused] at row
  · cases resolved with
    | recorded recorded => simp [missing] at recorded
    | echoed _ echoed => simp [unreferenced] at echoed
    | waiting _ _ waiting => simp [touched] at waiting
    | opened _ _ _ unused =>
      -- Without an amount the charge does not even match the order just opened for it.
      have audited := settled.unpriced called unpriced rfl
      have orders : after.orders = db.orders.add d.fresh.id
          (recurringOrder id s d.payment d.provider d.fresh.externalReference) unused := by
        rw [audited]
        rfl
      have payments : after.payments = db.payments := by
        rw [audited]
        rfl
      have touched' : untouchedInitialOrder after id = none := by
        simpa [untouchedInitialOrder, orders, payments, Table.find?_add, recurringOrder] using touched
      refine ⟨?_, ⟨payments ▸ missing, unreferenced', .inr ⟨called, unpriced, touched'⟩⟩, known'⟩
      intro same
      have row := congrArg (·.get? d.fresh.id) (orders.symm.trans same)
      simp [unused] at row

/-- A payment that has left its traces changes no books when it is delivered again. -/
theorem deliver_traced (linked : Linked db) (drawn : d.fresh.NewTo db d.payment)
    (traced : ∀ id, findSubscriptionForPayment db d.payment d.provider = some id →
      ¬ Untraced db id d.event d.payment) (now : Time) (fresh : FreshOrder) :
    SameBooks (deliver db d) (deliver (deliver db d) (d.again now fresh)) := by
  by_cases ignored : d.event = .ignored
  · rw [deliver_ignored ignored, deliver_ignored (d := d.again now fresh) ignored]
    exact .refl db
  cases known : findSubscriptionForPayment db d.payment d.provider with
  | none =>
    -- Nobody is told about the charge but the audit log, which no lookup reads.
    have again : findSubscriptionForPayment (deliver db d) (d.again now fresh).payment
        (d.again now fresh).provider = none := by
      rw [deliver_unknown ignored known]
      exact known
    rw [deliver_unknown (d := d.again now fresh) ignored again]
    exact ⟨rfl, rfl, rfl⟩
  | some id =>
    obtain ⟨s, stored⟩ := findSubscriptionForPayment_stored known
    rcases findOrCreateOrderForPayment_succeeds s d.provider drawn with
      ⟨mid, orderId, order, resolves⟩ | ⟨row, recorded, lost⟩
    swap
    · have unchanged : deliver db d = db := deliver_lost ignored known recorded lost
      have again : deliver db (d.again now fresh) = db := deliver_lost ignored known recorded lost
      rw [unchanged, again]
      exact .refl db
    obtain ⟨answer, settled⟩ := deliver_settles linked ignored known stored resolves
    have resolved := resolved_of_found resolves
    obtain ⟨found, subscriptions, -⟩ := resolved.frame
    have stored' : mid.subscriptions.get? id = some s := by rw [subscriptions, stored]
    obtain ⟨order', s', orders, rows, treated⟩ := settled.rows stored' found
    have found' : (deliver db d).orders.get? orderId = some order' := by simp [orders, found]
    have known' := findSubscriptionForPayment_again stored resolved settled known
    have resolves' := resolves_again (classifyPayment_aboutMoney ignored) (traced id known) stored
      resolved settled found' s' fresh
    obtain ⟨_, settled'⟩ := deliver_settles (d := d.again now fresh) (deliver_linked linked) ignored
      known' (by simp [rows, stored']) resolves'
    exact treated.quiet.books settled'

end Twice

/-- The arguments of one webhook transaction, whenever its subscription was looked up. -/
structure Outcome where
  now : Time
  subscription : SubscriptionId
  event : InternalPaymentEvent
  payment : GatewayPayment
  provider : PaymentProviderName
  fresh : FreshOrder

def applyOutcome (db : Db) (o : Outcome) : Db :=
  commit db (.applyPaymentOutcome o.now o.subscription o.event o.payment o.provider o.fresh)

def TurnsPaid (db after : Db) (order : OrderId) : Prop :=
  db.orderStatus order ≠ some .paid ∧ after.orderStatus order = some .paid

/-- The subscription was neither turned active nor paid any further ahead. -/
def Unserved (s s' : Subscription) : Prop :=
  (s'.status = .active → s.status = .active) ∧ s'.currentPeriodEndsAt = s.currentPeriodEndsAt

theorem applyOutcome_settlement_le (db : Db) (o : Outcome) (order : OrderId) :
    db.settlement order ≤ (applyOutcome db o).settlement order :=
  commit_settlement_le (by simp [SparesSettled, Tx.overwrites]) order

theorem applyOutcome_serves {db : Db} {o : Outcome} {id : SubscriptionId} {s s' : Subscription}
    (stored : db.subscriptions.get? id = some s)
    (stored' : (applyOutcome db o).subscriptions.get? id = some s') :
    Unserved s s' ∨ ∃ order, TurnsPaid db (applyOutcome db o) order ∧ Served o.now s s' := by
  have still (same : (applyOutcome db o).subscriptions.get? id = db.subscriptions.get? id) :
      Unserved s s' := by
    obtain rfl : s = s' := by simpa [stored, stored'] using same.symm
    exact ⟨fun active => active, rfl⟩
  cases executed : exec db
      (.applyPaymentOutcome o.now o.subscription o.event o.payment o.provider o.fresh) with
  | error e => exact .inl (still (by simp [applyOutcome, commit, executed]))
  | ok after =>
    have applied : applyOutcome db o = after := by simp [applyOutcome, commit, executed]
    rw [applied] at still stored' ⊢
    obtain ⟨answer, applies⟩ := map_fst_eq_ok_iff.mp executed
    rcases applyPaymentOutcome_ok applies with ⟨rfl, -⟩ | ⟨t, mid, orderId, order, held, resolved,
      settled⟩
    · exact .inl (still rfl)
    obtain ⟨found, subscriptions, -⟩ := resolved.frame
    obtain ⟨order', t', orders, rows, treated⟩ := settled.rows (by rw [subscriptions, held]) found
    by_cases own : id = o.subscription
    · subst own
      obtain rfl : t = s := by simpa [held] using stored
      obtain rfl : t' = s' := by simpa [rows, subscriptions, held] using stored'
      refine treated.serves.imp_right ?_
      rintro ⟨unsettled, paid, served⟩
      refine ⟨orderId, ⟨?_, by simp [Db.orderStatus, orders, found, paid]⟩, served⟩
      -- The order was open, or was not there at all.
      rcases resolved.origin with ⟨-, before⟩ | ⟨unused, rfl, -, -⟩
      · simpa [Db.orderStatus, before] using unsettled.1
      · simp [Db.orderStatus, unused]
    · exact .inl (still (by simp [rows, subscriptions, own]))

/--
Every order turns paid at most once, and no subscription is activated or renewed without one that
does, in every sequence of webhook transactions. Delivering a notification twice in a row amounts
to delivering it once, except for the charges that no row and no order leads back to.
-/
theorem webhook_is_idempotent_iff (db : Db) (d : Delivery) (now : Time) (fresh : FreshOrder)
    (linked : Linked db) (drawn : d.fresh.NewTo db d.payment)
    (drawn' : fresh.NewTo (deliver db d) d.payment) :
    ((∀ outcomes order, entries applyOutcome (fun db => db.settlement order) 1 db outcomes ≤ 1) ∧
      (∀ outcomes o id s s', (run applyOutcome db outcomes).subscriptions.get? id = some s →
        (applyOutcome (run applyOutcome db outcomes) o).subscriptions.get? id = some s' →
        Unserved s s' ∨ ∃ order, TurnsPaid (run applyOutcome db outcomes)
          (applyOutcome (run applyOutcome db outcomes) o) order ∧ Served o.now s s') ∧
      SameBooks (deliver db d) (deliver (deliver db d) (d.again now fresh))) ↔
    ∀ id, findSubscriptionForPayment db d.payment d.provider = some id →
      ¬ Untraced db id d.event d.payment := by
  constructor
  · rintro ⟨-, -, books⟩ id known untraced
    -- The second delivery of an untraced charge writes one more order.
    obtain ⟨-, untraced', known'⟩ := deliver_untraced linked drawn known untraced
    exact (deliver_untraced (d := d.again now fresh) (deliver_linked linked) drawn' known'
      untraced').1 books.orders
  · intro traced
    refine ⟨?_, ?_, deliver_traced linked drawn traced now fresh⟩
    · intro outcomes order
      exact entries_le_one (fun db o => applyOutcome_settlement_le db o order) db outcomes
    · intro outcomes o id s s' stored stored'
      exact applyOutcome_serves stored stored'

def sampleCard : Db := run commit sampleShop.db [
  .createCheckoutOrder 0 1 { planId := 1, paymentMethod := .card } 20 ⟨10, "ord_a"⟩ none,
  .authorizeCard 10 20 "pre-1" "init",
  .applyPaymentOutcome 1000 20 .paymentConfirmed
    { id := "card-1", status := "approved", subscriptionExternalId := some "pre-1"
      amountCents := some 2990 } .mercadopago ⟨11, "ord_b"⟩]

def sampleCharge (status : String) : Delivery where
  notification := "n5"
  provider := .mercadopago
  payment :=
    { id := "card-2", status, subscriptionExternalId := some "pre-1", amountCents := some 2990 }
  now := 2000
  fresh := ⟨12, "ord_c"⟩

/-- An approved charge renews the subscription once, however often it is delivered. -/
theorem sample_webhook_is_idempotent :
    SameBooks (deliver sampleCard (sampleCharge "approved"))
      (deliver (deliver sampleCard (sampleCharge "approved"))
        ((sampleCharge "approved").again 3000 ⟨13, "ord_d"⟩)) :=
  ((webhook_is_idempotent_iff sampleCard (sampleCharge "approved") 3000 ⟨13, "ord_d"⟩
    (run_linked (.of_empty rfl rfl rfl) _) (by decide) (by decide)).mpr (by decide)).2.2

/-- A cancelled charge opens one more order each time it is delivered. -/
theorem cancelled_charge_is_counted_twice :
    (sampleCharge "cancelled").event = .paymentCanceled ∧
    (deliver sampleCard (sampleCharge "cancelled")).orderStatus 12 = some .cancelled ∧
    (deliver sampleCard (sampleCharge "cancelled")).orderStatus 13 = none ∧
    (deliver (deliver sampleCard (sampleCharge "cancelled"))
      ((sampleCharge "cancelled").again 3000 ⟨13, "ord_d"⟩)).orderStatus 13 = some .cancelled ∧
    ¬ SameBooks (deliver sampleCard (sampleCharge "cancelled"))
      (deliver (deliver sampleCard (sampleCharge "cancelled"))
        ((sampleCharge "cancelled").again 3000 ⟨13, "ord_d"⟩)) := by
  decide

end PxHost
