import PxHost.System.Frames

/-! What a transaction can do to an order, said once for all of them. -/

namespace PxHost

open Store Fallible

def Tx.overwrites : Tx → Option OrderId
  | .expireStaleOrder _ stale => some stale.id
  | .failCharge order => some order
  | _ => none

/-- The order whose server a transaction reports to be on its way, or to have failed. -/
def Tx.provisions : Tx → Option OrderId
  | .markProvisioningRunning order | .failProvisioning order _ => some order
  | _ => none

/-- The order whose server a transaction reports to be there. -/
def Tx.delivers : Tx → Option OrderId
  | .finishProvisioning order _ => some order
  | _ => none

/-- The columns of an order that no transaction rewrites. -/
structure Order.SameDeal (o o' : Order) : Prop where
  subscriptionId : o'.subscriptionId = o.subscriptionId
  kind : o'.kind = o.kind
  externalReference : o'.externalReference = o.externalReference
  provider : o'.provider = o.provider

inductive OrderMove (tx : Tx) (id : OrderId) (o o' : Order) : Prop where
  | kept (status : o'.status = o.status) (server : o'.provisioningStatus = o.provisioningStatus)
  | confirmed {now : Time} {subscription : SubscriptionId} {payment : GatewayPayment}
      {provider : PaymentProviderName} {fresh : FreshOrder}
      (called : tx = .applyPaymentOutcome now subscription .paymentConfirmed payment provider fresh)
      (unsettled : o.IsOpen) (status : o'.status = .paid)
      (server : o'.provisioningStatus = o.provisioningStatus)
  | refunded {now : Time} {subscription : SubscriptionId} {event : InternalPaymentEvent}
      {payment : GatewayPayment} {provider : PaymentProviderName} {fresh : FreshOrder}
      (called : tx = .applyPaymentOutcome now subscription event payment provider fresh)
      (returned : event = .paymentRefunded ∨ event = .paymentChargeback)
      (status : o'.status = .refunded) (server : o'.provisioningStatus = o.provisioningStatus)
  | closed (pending : o.status = .pending) (status : o'.status = .cancelled ∨ o'.status = .failed)
      (server : o'.provisioningStatus = o.provisioningStatus)
  | overwritten (blind : tx.overwrites = some id)
      (status : o'.status = .expired ∨ o'.status = .failed)
      (server : o'.provisioningStatus = o.provisioningStatus)
  | provisioned (serves : tx.provisions = some id) (status : o'.status = o.status)
      (server : o'.provisioningStatus ≠ .pending)
  | delivered (serves : tx.delivers = some id) (status : o'.status = o.status)
      (server : o'.provisioningStatus = .done)

/-- An order is born unpaid and waiting for a server, or never waits for one at all. -/
inductive NewOrder (o : Order) : Prop where
  | first (status : o.status = .pending) (kind : o.kind = .planInitial)
  | renewal (kind : o.kind = .planRenewal) (server : o.provisioningStatus = .notRequired)

/-- An order after a transaction is the same deal, moved in one of the listed ways. -/
structure OrderStep (tx : Tx) (id : OrderId) (o o' : Order) : Prop extends Order.SameDeal o o' where
  move : OrderMove tx id o o'

abbrev OrdersEvolve (tx : Tx) (db after : Db) : Prop :=
  Table.Evolves (OrderStep tx) (fun _ => NewOrder) db.orders after.orders

/-- What was bought, by whom and for how much: columns that no transaction rewrites. -/
structure Order.SamePurchase (o o' : Order) : Prop where
  subscriptionId : o'.subscriptionId = o.subscriptionId
  kind : o'.kind = o.kind
  amountCents : o'.amountCents = o.amountCents

/-- The order that a transaction gives the expiry of its boleto. -/
def Tx.reschedules : Tx → Option OrderId
  | .presentCharge order (.boleto _ _ (some _)) => some order
  | _ => none

/-- What a transaction leaves of an order; only showing a boleto touches the expiry. -/
structure PurchaseMove (tx : Tx) (id : OrderId) (o o' : Order) : Prop
    extends Order.SamePurchase o o' where
  expiresAt : tx.reschedules = some id ∨ o'.expiresAt = o.expiresAt

/-- The three ways an order comes to be, each with the price it is opened at. -/
inductive OpenedOrder (db after : Db) (tx : Tx) (id : OrderId) (o : Order) : Prop where
  | checkout {subscription : SubscriptionId} {s : Subscription}
      (own : o.subscriptionId = some subscription) (kind : o.kind = .planInitial)
      (new : db.subscriptions.get? subscription = none)
      (stored : after.subscriptions.get? subscription = some s)
      (price : o.amountCents = s.priceCents)
  | renewal {now : Time} {subscription : SubscriptionId} {fresh : FreshOrder}
      {graceDays : Option Int} {s : Subscription}
      (called : tx = .createOfflineRenewalCharge now subscription fresh graceDays)
      (own : o.subscriptionId = some subscription) (kind : o.kind = .planRenewal)
      (stored : db.subscriptions.get? subscription = some s)
      (price : o.amountCents = s.priceCents)
  /-- The provider charged on its own, and the order takes the amount from the charge. -/
  | recurring {now : Time} {subscription : SubscriptionId} {event : InternalPaymentEvent}
      {payment : GatewayPayment} {provider : PaymentProviderName} {fresh : FreshOrder}
      {s : Subscription} {mid : Db} {order : Order}
      (called : tx = .applyPaymentOutcome now subscription event payment provider fresh)
      (own : o.subscriptionId = some subscription) (kind : o.kind = .planRenewal)
      (stored : db.subscriptions.get? subscription = some s)
      (resolves : findOrCreateOrderForPayment db subscription s payment provider fresh =
        .ok (mid, some (id, order)))
      (price : o.amountCents = order.amountCents) (expiresAt : o.expiresAt = none)

/-- The orders of a database after a transaction, as far as the purchase goes. -/
abbrev PurchasesEvolve (tx : Tx) (db after : Db) : Prop :=
  Table.Evolves (PurchaseMove tx) (OpenedOrder db after tx) db.orders after.orders

variable {db base after : Db} {now : Time} {tx : Tx} {New : OrderId → Order → Prop}

/-- What becomes of an order, and of the purchase it was opened for. -/
abbrev OrderChange (tx : Tx) (id : OrderId) (o o' : Order) : Prop :=
  OrderStep tx id o o' ∧ PurchaseMove tx id o o'

theorem OrderChange.still (id : OrderId) (o : Order) : OrderChange tx id o o :=
  ⟨⟨⟨rfl, rfl, rfl, rfl⟩, .kept rfl rfl⟩, ⟨rfl, rfl, rfl⟩, .inr rfl⟩

variable {id : OrderId} {f : Order → Order}

theorem OpenedOrder.same {o o' : Order} (opened : OpenedOrder db after tx id o)
    (same : PurchaseMove tx id o o') : OpenedOrder db after tx id o' := by
  obtain ⟨⟨sub, kind', amount⟩, expiry⟩ := same
  cases opened with
  | checkout own kind new stored price =>
    exact .checkout (sub.trans own) (kind'.trans kind) new stored (amount.trans price)
  | renewal called own kind stored price =>
    exact .renewal called (sub.trans own) (kind'.trans kind) stored (amount.trans price)
  | recurring called own kind stored resolves price expiresAt =>
    subst called
    refine .recurring rfl (sub.trans own) (kind'.trans kind) stored resolves (amount.trans price) ?_
    -- A payment outcome presents no charge, so that it gives no order an expiry.
    rcases expiry with rescheduled | kept
    · cases rescheduled
    · exact kept.trans expiresAt

theorem orders_of_eq (same : after.orders = db.orders) :
    Table.Evolves (OrderChange tx) New db.orders after.orders := by
  rw [same]
  exact .refl OrderChange.still _

theorem orders_of_modify (one : after.orders = db.orders.modify id f)
    (moves : ∀ o, db.orders.get? id = some o → OrderChange tx id o (f o)) :
    Table.Evolves (OrderChange tx) New db.orders after.orders := by
  rw [one]
  exact .modify OrderChange.still moves

theorem orders_of_stored {o : Order} (one : after.orders = db.orders.modify id f)
    (stored : db.orders.get? id = some o) (moves : OrderChange tx id o (f o)) :
    Table.Evolves (OrderChange tx) New db.orders after.orders := by
  refine orders_of_modify one fun row found => ?_
  obtain rfl : o = row := by simpa [stored] using found
  exact moves

theorem orders_of_update (updates : db.updateOrder id f = .ok after)
    (moves : ∀ o, OrderChange tx id o (f o)) :
    Table.Evolves (OrderChange tx) New db.orders after.orders := by
  obtain ⟨-, rfl⟩ := Db.updateOrder_ok_iff.mp updates
  exact orders_of_modify rfl fun o _ => moves o

variable {subscriptionId : SubscriptionId} {s : Subscription} {orderId : OrderId} {order : Order}
  {event : InternalPaymentEvent} {payment : GatewayPayment} {answer : Option OrderId}

/-- What settling makes of an order, and which order it answers with. -/
inductive Booked (now : Time) (s : Subscription) (event : InternalPaymentEvent)
    (payment : GatewayPayment) (orderId : OrderId) (order : Order) (answer : Option OrderId) :
    Order → Prop where
  | kept : Booked now s event payment orderId order answer order
  | paid (unsettled : order.IsOpen) (confirmed : event = .paymentConfirmed)
      (amount : payment.amountCents = some order.amountCents)
      (answers : answer = if order.provisioningStatus = .pending then some orderId else none) :
    Booked now s event payment orderId order answer (order.paid now s payment)
  | refunded (returned : event = .paymentRefunded ∨ event = .paymentChargeback) :
    Booked now s event payment orderId order answer { order with status := .refunded }
  | closed {status : OrderStatus} (pending : order.status = .pending)
      (closes : status = .cancelled ∨ status = .failed) :
    Booked now s event payment orderId order answer { order with status }

theorem Settled.booked (found : db.orders.get? orderId = some order)
    (settled : Settled db now subscriptionId s event payment orderId order after answer) :
    ∃ order', after.orders = db.orders.modify orderId (fun _ => order') ∧
      Booked now s event payment orderId order answer order' := by
  have kept := (Table.modify_same found).symm
  cases settled with
  | absorbed | repeated | noted | mismatched | unmoved => exact ⟨order, kept, .kept⟩
  | confirmed unsettled confirmed amount restored =>
    exact ⟨_, restored.frame.2.1.trans (Table.modify_stored found _),
      .paid unsettled confirmed amount rfl⟩
  | refunded unsettled returned reason stopped =>
    have orders := stopped.frame.1.orders.trans (transitionedIfAllowed_frame ..).2.1
    exact ⟨_, orders.trans (Table.modify_stored found ({ · with status := .refunded })),
      .refunded returned⟩
  | cancelled pending =>
    exact ⟨_, Table.modify_stored found ({ · with status := .cancelled }),
      .closed pending (.inl rfl)⟩
  | rejected unsettled failed =>
    -- A rejected charge fails its order only while that is still pending.
    rw [(rejected_frame ..).2.1]
    split
    · next pending => exact ⟨_, Table.modify_stored found _, .closed pending (.inr rfl)⟩
    · exact ⟨order, kept, .kept⟩

theorem Settled.orders_evolve (provider : PaymentProviderName) (fresh : FreshOrder)
    (stored : db.orders.get? orderId = some order)
    (settled : Settled db now subscriptionId s event payment orderId order after answer) :
    Table.Evolves
      (OrderChange (.applyPaymentOutcome now subscriptionId event payment provider fresh)) New
      db.orders after.orders := by
  obtain ⟨order', orders, booked⟩ := settled.booked stored
  refine orders_of_stored orders stored ?_
  cases booked with
  | kept => exact .still orderId order
  | paid unsettled confirmed =>
    subst confirmed
    exact ⟨⟨⟨rfl, rfl, rfl, rfl⟩, .confirmed rfl unsettled rfl rfl⟩, ⟨rfl, rfl, rfl⟩, .inr rfl⟩
  | refunded returned =>
    exact ⟨⟨⟨rfl, rfl, rfl, rfl⟩, .refunded rfl returned rfl rfl⟩, ⟨rfl, rfl, rfl⟩, .inr rfl⟩
  | closed pending closes =>
    exact ⟨⟨⟨rfl, rfl, rfl, rfl⟩, .closed pending closes rfl⟩, ⟨rfl, rfl, rfl⟩, .inr rfl⟩

variable {provider : PaymentProviderName} {fresh : FreshOrder}

theorem Resolved.orders_kept {o : Order} (stored : db.orders.get? id = some o)
    (resolved : Resolved db subscriptionId s payment provider fresh after orderId order) :
    after.orders.get? id = some o := by
  rcases resolved.origin with ⟨rfl, -⟩ | ⟨unused, rfl, rfl, rfl⟩
  · exact stored
  · have other : id ≠ fresh.id := by
      rintro rfl
      simp [unused] at stored
    simpa [other] using stored

section Applies

variable (applies : applyPaymentOutcome db now subscriptionId event payment provider fresh = .ok
  (after, answer))
include applies

/-- A renewal that a charge was resolved to is new, and never waits for a server. -/
theorem applyPaymentOutcome_orders :
    Table.Evolves
      (OrderChange (.applyPaymentOutcome now subscriptionId event payment provider fresh))
      (fun id o => NewOrder o ∧ OpenedOrder db after
        (.applyPaymentOutcome now subscriptionId event payment provider fresh) id o)
      db.orders after.orders := by
  rcases applyPaymentOutcome_resolves applies with ⟨rfl, -⟩ | ⟨s, mid, orderId, order, known, resolves,
    settled⟩
  · exact orders_of_eq rfl
  -- Settling opens nothing, so an order that is new was opened while the payment was resolved.
  have resolved := resolved_of_found resolves
  have opens : Table.Evolves (fun _ => Eq)
      (fun id o => (o.kind = .planRenewal ∧ o.provisioningStatus = .notRequired) ∧ OpenedOrder db after
        (.applyPaymentOutcome now subscriptionId event payment provider fresh) id o)
      db.orders mid.orders := by
    rcases resolved.origin with ⟨rfl, -⟩ | ⟨unused, rfl, rfl, rfl⟩
    · exact .refl (fun _ _ => rfl) _
    · exact .add unused (fun _ _ => rfl)
        ⟨⟨rfl, rfl⟩, .recurring rfl rfl rfl known resolves rfl rfl⟩
  refine opens.trans (settled.orders_evolve provider fresh resolved.frame.1) ?_ ?_
  · rintro id o o' o'' rfl change
    exact change
  · rintro id o o' ⟨⟨renewal, serverless⟩, opened⟩ ⟨step, purchase⟩
    refine ⟨?_, opened.same purchase⟩
    -- A webhook never reports on servers, so the order it opened still waits for none.
    cases step.move with
    | provisioned serves | delivered serves => cases serves
    | kept status server | confirmed called unsettled status server
    | refunded called returned status server | closed pending status server
    | overwritten blind status server =>
      exact .renewal (step.kind.trans renewal) (server.trans serverless)

/-- The order whose status a payment turns is the one it was resolved to, and it was settled. -/
theorem applyPaymentOutcome_turns {o o' : Order} (stored : db.orders.get? id = some o)
    (stored' : after.orders.get? id = some o') (turned : o.status ≠ o'.status) :
    ∃ s mid, db.subscriptions.get? subscriptionId = some s ∧
      findOrCreateOrderForPayment db subscriptionId s payment provider fresh =
        .ok (mid, some (id, o)) ∧
      Settled mid now subscriptionId s event payment id o after answer := by
  rcases applyPaymentOutcome_resolves applies with ⟨rfl, -⟩ | ⟨s, mid, orderId, order, known, resolves,
    settled⟩
  · simp [stored] at stored'
    exact absurd (congrArg Order.status stored') turned
  have resolved := resolved_of_found resolves
  have kept := resolved.orders_kept stored
  by_cases same : id = orderId
  · subst same
    obtain rfl : order = o := by simpa [kept] using resolved.frame.1.symm
    exact ⟨s, mid, known, resolves, settled⟩
  · obtain ⟨_, orders, -⟩ := settled.booked resolved.frame.1
    have unmoved : o' = o := by simpa [orders, same, kept, eq_comm] using stored'
    exact absurd (congrArg Order.status unmoved.symm) turned

end Applies

/-- A closed order takes no event: the transaction writes nothing. -/
theorem Settled.eq_of_closed (closed : order.status = .refunded ∨ order.status = .cancelled)
    (settled : Settled db now subscriptionId s event payment orderId order after answer) :
    after = db := by
  cases settled with
  | absorbed | unmoved => rfl
  -- Every other way to settle an order starts from one that is open.
  | repeated paid => simp [paid] at closed
  | noted unsettled | mismatched unsettled | confirmed unsettled | rejected unsettled =>
    rcases closed with closed | closed <;> simp [Order.IsOpen, closed] at unsettled
  | refunded unsettled => exact absurd closed (by simpa using unsettled)
  | cancelled pending => simp [pending] at closed

theorem Settled.stops (returned : event = .paymentRefunded ∨ event = .paymentChargeback)
    (unclosed : ¬(order.status = .refunded ∨ order.status = .cancelled))
    (settled : Settled db now subscriptionId s event payment orderId order after answer) :
    ∃ reason, Stopped (db.refunded now subscriptionId s event payment orderId) now s reason
      after := by
  cases settled with
  | absorbed closed => exact absurd closed unclosed
  | refunded _ _ reason stopped => exact ⟨reason, stopped⟩
  | repeated paid kept undisputed => rcases returned with rfl | rfl <;> contradiction
  | noted _ other | mismatched _ other | confirmed _ other | rejected _ other
  | cancelled _ other => rcases returned with rfl | rfl <;> cases other
  | unmoved _ idle => rcases returned with rfl | rfl <;> simp [InternalPaymentEvent.aboutMoney] at idle

theorem findDuplicateCheckout_stored {user : UserId} {plan : PlanId} {duplicate : Order}
    (found : findDuplicateCheckout db now user plan = some (id, duplicate)) :
    db.orders.get? id = some duplicate ∧ duplicate.status = .pending := by
  obtain ⟨stored, matched⟩ := Table.find?_some found
  simp only [Bool.and_eq_true, beq_iff_eq] at matched
  exact ⟨stored, matched.1.1.2⟩

theorem cancelSupersededCheckout_orders (id : OrderId) (duplicate : Order) :
    (cancelSupersededCheckout db id duplicate).orders =
      db.orders.modify id fun o => { o with status := .cancelled } := by
  unfold cancelSupersededCheckout
  split <;> rfl

theorem createCheckoutOrder_orders {user : UserId} {dto : CreateCheckoutDto}
    {subscription : SubscriptionId} {ttlMinutes : Option Int} {result : CheckoutResult}
    (checksOut : createCheckoutOrder db now user dto subscription fresh ttlMinutes =
      .ok (after, result)) :
    Table.Evolves (OrderChange tx) (fun id o => NewOrder o ∧ OpenedOrder db after tx id o) db.orders
      after.orders := by
  cases createCheckoutOrder_ok checksOut with
  | reused => exact orders_of_eq rfl
  | @created base _ _ ttl replaced planned room newSubscription newOrder =>
    have cleaned : Table.Evolves (OrderChange tx) (fun _ _ => False) db.orders base.orders := by
      rcases replaced with rfl | ⟨id, duplicate, found, rfl⟩
      · exact orders_of_eq rfl
      · obtain ⟨stored, pending⟩ := findDuplicateCheckout_stored found
        exact orders_of_stored (cancelSupersededCheckout_orders ..) stored
          ⟨⟨⟨rfl, rfl, rfl, rfl⟩, .closed pending (.inl rfl) rfl⟩, ⟨rfl, rfl, rfl⟩, .inr rfl⟩
    -- Replacing a checkout adds no subscription, so that the new one was unknown before as well.
    have unknown : db.subscriptions.get? subscription = none := by
      rcases replaced with rfl | ⟨_, duplicate, _, rfl⟩
      · exact newSubscription
      · unfold cancelSupersededCheckout at newSubscription
        dsimp only at newSubscription
        split at newSubscription
        · exact newSubscription
        · simp only [Table.get?_modify] at newSubscription
          split at newSubscription
          · simpa using newSubscription
          · exact newSubscription
    refine cleaned.trans (.add newOrder (fun _ => Eq.refl) ⟨.first rfl rfl, ?_⟩) ?_
      (fun _ _ _ impossible => impossible.elim)
    · exact .checkout rfl rfl unknown (by simp; rfl) rfl
    · rintro id o o' o'' change rfl
      exact change

/-- Every transaction changes every order in one of the listed ways, or opens it as listed. -/
theorem exec_order_changes (executed : exec db tx = .ok after) :
    Table.Evolves (OrderChange tx) (fun id o => NewOrder o ∧ OpenedOrder db after tx id o) db.orders
      after.orders := by
  cases tx with
  -- Three transactions open orders.
  | applyPaymentOutcome now subscription event payment provider fresh =>
    obtain ⟨_, applies⟩ := map_fst_eq_ok_iff.mp executed
    exact applyPaymentOutcome_orders applies
  | createCheckoutOrder now user dto subscription fresh ttlMinutes =>
    obtain ⟨_, checksOut⟩ := map_fst_eq_ok_iff.mp executed
    exact createCheckoutOrder_orders checksOut
  | createOfflineRenewalCharge now subscription fresh graceDays =>
    obtain ⟨_, charges⟩ := map_fst_eq_ok_iff.mp executed
    rcases createOfflineRenewalCharge_ok charges with
      ⟨rfl, -⟩ | ⟨-, s, method, stored, -, -, unused, rfl⟩
    · exact orders_of_eq rfl
    · exact .add unused OrderChange.still ⟨.renewal rfl rfl, .renewal rfl rfl rfl stored rfl⟩
  -- The others rewrite at most columns that say how the purchase is coming along.
  | presentCharge order details =>
    refine orders_of_update executed fun o => ?_
    -- Only a boleto that comes with an expiry of its own replaces that of the order.
    rcases details with _ | ⟨_, _, _ | _⟩
    · exact ⟨⟨⟨rfl, rfl, rfl, rfl⟩, .kept rfl rfl⟩, ⟨rfl, rfl, rfl⟩, .inr rfl⟩
    · exact ⟨⟨⟨rfl, rfl, rfl, rfl⟩, .kept rfl rfl⟩, ⟨rfl, rfl, rfl⟩, .inr (Option.none_or ..)⟩
    · exact ⟨⟨⟨rfl, rfl, rfl, rfl⟩, .kept rfl rfl⟩, ⟨rfl, rfl, rfl⟩, .inl rfl⟩
  | authorizeCard order subscription preapproval initPoint =>
    obtain rfl := authorizeCard_ok executed
    exact orders_of_modify (f := (·.authorizedAt preapproval initPoint)) rfl
      fun o _ => ⟨⟨⟨rfl, rfl, rfl, rfl⟩, .kept rfl rfl⟩, ⟨rfl, rfl, rfl⟩, .inr rfl⟩
  | failCharge order =>
    exact orders_of_update executed fun o =>
      ⟨⟨⟨rfl, rfl, rfl, rfl⟩, .overwritten rfl (.inr rfl) rfl⟩, ⟨rfl, rfl, rfl⟩, .inr rfl⟩
  | expireStaleOrder now stale =>
    have orders : after.orders = (db.expired stale.id).orders := by
      rcases expireStaleOrder_ok executed with rfl | ⟨_, s, reason, -, -, rfl⟩
      · rfl
      · exact (transitionedIfAllowed_frame ..).2.1
    exact orders_of_modify (f := fun o => { o with status := .expired }) orders fun o _ =>
      ⟨⟨⟨rfl, rfl, rfl, rfl⟩, .overwritten rfl (.inl rfl) rfl⟩, ⟨rfl, rfl, rfl⟩, .inr rfl⟩
  | markProvisioningRunning | failProvisioning =>
    exact orders_of_update executed fun o =>
      ⟨⟨⟨rfl, rfl, rfl, rfl⟩, .provisioned rfl rfl nofun⟩, ⟨rfl, rfl, rfl⟩, .inr rfl⟩
  | finishProvisioning =>
    exact orders_of_update executed fun o =>
      ⟨⟨⟨rfl, rfl, rfl, rfl⟩, .delivered rfl rfl rfl⟩, ⟨rfl, rfl, rfl⟩, .inr rfl⟩
  | removeServer id =>
    obtain ⟨-, rfl⟩ := removeServer_ok executed
    simp only [Db.removeServer]
    refine .updateWhere OrderChange.still fun id o _ _ => ?_
    exact ⟨⟨⟨rfl, rfl, rfl, rfl⟩, .kept rfl rfl⟩, ⟨rfl, rfl, rfl⟩, .inr rfl⟩
  -- The rest writes to no order.
  | _ => exact orders_of_eq ((exec_ledger executed).orders rfl)

theorem exec_orders (executed : exec db tx = .ok after) : OrdersEvolve tx db after :=
  (exec_order_changes executed).mono (fun _ _ _ => And.left) fun _ _ => And.left

theorem exec_purchases (executed : exec db tx = .ok after) : PurchasesEvolve tx db after :=
  (exec_order_changes executed).mono (fun _ _ _ => And.right) fun _ _ => And.right

end PxHost
