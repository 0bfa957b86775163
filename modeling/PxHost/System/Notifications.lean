import PxHost.System.Links
import PxHost.System.Purchases
import PxHost.System.Settlement

/-! Notifications about charges, worked off one after another. -/

namespace PxHost

open Store Fallible Machine

/-- One execution of the webhook worker on a charge it has re-fetched. -/
structure Delivery where
  notification : NotificationId
  provider : PaymentProviderName
  payment : GatewayPayment
  now : Time
  fresh : FreshOrder
deriving DecidableEq

def Delivery.event (d : Delivery) : InternalPaymentEvent := classifyPayment d.provider d.payment

/-- The database after a delivery; an exception rolls its transaction back. -/
def deliver (db : Db) (d : Delivery) : Db :=
  match processPaymentEvent db d.now d.notification d.provider d.payment d.fresh with
  | .ok (after, _) => after
  | .error _ => db

/-- A delivery is what the worker's two steps do when no other step comes between them. -/
theorem webhook_steps_deliver (w : World) (d : Delivery)
    (idle : w.webhooks.get? d.notification = none) :
    (run step w [.resolveWebhook d.notification d.provider d.payment,
      .applyWebhook d.notification d.now d.fresh]).db = deliver w.db d := by
  -- What the first step remembers decides whether the second one issues a transaction.
  have remembered : (step w (.resolveWebhook d.notification d.provider d.payment)).webhooks.get?
      d.notification = some (if d.event = .ignored then .done none
        else (findSubscriptionForPayment w.db d.payment d.provider).elim (.done none)
          fun id => .resolved id d.event d.payment d.provider) := by
    simp only [step, remember, idle, Option.isSome_none, Bool.false_eq_true, if_false,
      Table.get?_upsert, if_true, Option.elim_none]
    cases findSubscriptionForPayment w.db d.payment d.provider <;> rfl
  simp only [run_cons, run_nil, step_db, issued, remembered, idle, Option.isSome_none,
    Bool.false_or, deliver, processPaymentEvent]
  by_cases ignored : d.event = .ignored
  · have silent : classifyPayment d.provider d.payment = .ignored := ignored
    simp [ignored, silent]
  · have heard : classifyPayment d.provider d.payment ≠ .ignored := ignored
    cases findSubscriptionForPayment w.db d.payment d.provider with
    | none => simp [ignored, heard, commit, exec]
    | some id =>
      simp only [heard, if_false, commit, exec, Delivery.event]
      cases applied : applyPaymentOutcome w.db d.now id (classifyPayment d.provider d.payment)
        d.payment d.provider d.fresh <;> simp [Except.map, applied]

theorem sample_webhook_steps_deliver :
    let w := run step sampleShop sampleCheckout
    (run step w (samplePaid 5)).db = deliver w.db
      ⟨"n1", .mercadopago, { samplePix with status := "approved" }, 5, 11, "ord_b"⟩ :=
  webhook_steps_deliver _ ⟨"n1", .mercadopago, _, 5, 11, "ord_b"⟩ rfl

/-- The columns by which a recurring charge finds its subscription. -/
structure Subscription.SameMandate (s s' : Subscription) : Prop where
  externalSubscriptionId : s'.externalSubscriptionId = s.externalSubscriptionId
  paymentProvider : s'.paymentProvider = s.paymentProvider

theorem Subscription.SameMandate.refl (s : Subscription) : s.SameMandate s := ⟨rfl, rfl⟩

theorem Subscription.SameMandate.transitioned (s : Subscription) (now : Time)
    (target : SubscriptionStatus) (reason : Option String) :
    s.SameMandate (s.transitioned now target reason) := by
  cases target <;> exact ⟨rfl, rfl⟩

theorem Subscription.SameMandate.renewed (s : Subscription) (now : Time) :
    s.SameMandate (s.renewed now) := by
  unfold Subscription.renewed Subscription.paidUntil
  split <;> exact ⟨rfl, rfl⟩

section Rows

variable {db after : Db} {now : Time} {id : SubscriptionId} {s s' : Subscription}
  {event : InternalPaymentEvent} {payment : GatewayPayment} {orderId : OrderId}
  {order order' : Order} {answer : Option OrderId}

/-- One activation, one recovery or one renewal. -/
inductive Served (now : Time) (s : Subscription) : Subscription → Prop where
  | activated : Served now s (s.activated now)
  | recovered : Served now s
      (s.transitioned now .active (some "payment webhook: confirmed (recovered)"))
  | renewed : Served now s (s.renewed now)

/-- The event has nothing left to do to the order and the subscription. -/
def Quiet (event : InternalPaymentEvent) (payment : GatewayPayment) (order : Order)
    (s : Subscription) : Prop :=
  match event with
  | .paymentConfirmed => order.IsOpen → payment.amountCents ≠ some order.amountCents
  | .paymentRefunded | .paymentChargeback => order.status = .refunded ∨ order.status = .cancelled
  | .paymentCanceled => order.status ≠ .pending
  | .paymentFailed => order.status ≠ .pending ∧
      (order.IsOpen → order.kind = .planRenewal → ¬ canTransition s.status .pastDue)
  | _ => True

/-- The order and the subscription after an event, row by row. -/
inductive Treated (now : Time) (event : InternalPaymentEvent) (payment : GatewayPayment)
    (order : Order) (s : Subscription) : Order → Subscription → Prop where
  | kept (quiet : Quiet event payment order s) : Treated now event payment order s order s
  | confirmed {s' : Subscription} (unsettled : order.IsOpen) (confirmed : event = .paymentConfirmed)
      (served : s' = s ∨ Served now s s') :
    Treated now event payment order s (order.paid now s payment) s'
  | refunded (returned : event = .paymentRefunded ∨ event = .paymentChargeback)
      (reason : Option String) :
    Treated now event payment order s { order with status := .refunded }
      (if canTransition s.status .suspended then s.transitioned now .suspended reason else s)
  | cancelled (called : event = .paymentCanceled) :
    Treated now event payment order s { order with status := .cancelled } s
  | rejected (failed : event = .paymentFailed) (unsettled : order.IsOpen)
      (reason : Option String) :
    Treated now event payment order s
      (if order.status = .pending then { order with status := .failed } else order)
      (if order.kind = .planRenewal ∧ canTransition s.status .pastDue then
        s.transitioned now .pastDue reason else s)

section Stored

variable (stored : db.subscriptions.get? id = some s)
include stored

theorem Restored.row (restored : Restored db now id s orderId order after) :
    ∃ s', after.subscriptions = db.subscriptions.modify id (fun _ => s') ∧
      (s' = s ∨ Served now s s') := by
  cases restored with
  | renewed renewal => exact ⟨_, Table.modify_stored stored _, .inr .renewed⟩
  | activated first pending => exact ⟨_, Table.modify_stored stored _, .inr .activated⟩
  | recovered first lapsed => exact ⟨_, Table.modify_stored stored _, .inr .recovered⟩
  | @resumed resumed lifted serverId first lapsed server resumes =>
    refine ⟨_, Eq.trans ?_ (Table.modify_stored stored _), .inr .recovered⟩
    exact Eq.trans (by split <;> rfl) (unsuspend_frame resumes).1.subscriptions
  | untouched => exact ⟨s, (Table.modify_same stored).symm, .inl rfl⟩

theorem transitionedIfAllowed_row (target : SubscriptionStatus) (reason : String) :
    (db.transitionedIfAllowed now id s target reason).subscriptions =
      db.subscriptions.modify id fun _ =>
        if canTransition s.status target then s.transitioned now target (some reason) else s := by
  unfold Db.transitionedIfAllowed
  split
  · exact Table.modify_stored stored _
  · exact (Table.modify_same stored).symm

/-- Settling an order replaces its row and the row of its subscription, and no other. -/
theorem Settled.rows (found : db.orders.get? orderId = some order)
    (settled : Settled db now id s event payment orderId order after answer) :
    ∃ order' s', after.orders = db.orders.modify orderId (fun _ => order') ∧
      after.subscriptions = db.subscriptions.modify id (fun _ => s') ∧
      Treated now event payment order s order' s' := by
  have kept (orders : after.orders = db.orders) (subscriptions : after.subscriptions = db.subscriptions)
      (quiet : Quiet event payment order s) :
      ∃ order' s', after.orders = db.orders.modify orderId (fun _ => order') ∧
        after.subscriptions = db.subscriptions.modify id (fun _ => s') ∧
        Treated now event payment order s order' s' :=
    ⟨order, s, orders.trans (Table.modify_same found).symm,
      subscriptions.trans (Table.modify_same stored).symm, .kept quiet⟩
  cases settled with
  | absorbed closed =>
    refine kept rfl rfl ?_
    cases event <;> rcases closed with held | held <;> simp [Quiet, Order.IsOpen, held]
  | repeated paid undone undisputed =>
    refine kept rfl rfl ?_
    cases event <;> simp_all [Quiet, Order.IsOpen]
  | noted unsettled waiting =>
    subst waiting
    exact kept rfl rfl trivial
  | mismatched unsettled confirmed amount =>
    subst confirmed
    exact kept rfl rfl fun _ => amount
  | unmoved unsettled idle =>
    refine kept rfl rfl ?_
    rcases idle with ⟨rfl, late⟩ | idle
    · exact late
    · cases event <;> trivial
  | confirmed unsettled confirmed amount restored =>
    obtain ⟨s', row, served⟩ := restored.row (by exact stored)
    refine ⟨_, s', ?_, row, .confirmed unsettled confirmed served⟩
    exact restored.frame.2.1.trans (Table.modify_stored found _)
  | refunded unsettled returned reason stopped =>
    refine ⟨_, _, ?_, ?_, .refunded returned (some s!"payment webhook: {event.text}")⟩
    · exact (stopped.frame.1.orders.trans (transitionedIfAllowed_frame ..).2.1).trans
        (Table.modify_stored found fun o => { o with status := .refunded })
    · exact stopped.frame.1.subscriptions.trans (transitionedIfAllowed_row (by exact stored) ..)
  | cancelled pending called =>
    exact ⟨_, s, Table.modify_stored found fun o => { o with status := .cancelled },
      (Table.modify_same stored).symm, .cancelled called⟩
  | rejected unsettled failed =>
    refine ⟨_, _, ?_, ?_, .rejected failed unsettled
      (some "payment webhook: renewal charge rejected")⟩
    · rw [(rejected_frame ..).2.1]
      split
      · exact Table.modify_stored found _
      · exact (Table.modify_same found).symm
    · unfold Db.rejected
      by_cases renewal : order.kind = .planRenewal
      · simp only [renewal, if_true, true_and]
        exact transitionedIfAllowed_row (by exact stored) ..
      · simp only [renewal, if_false, false_and]
        exact (Table.modify_same stored).symm

end Stored

section Treatment

variable (treated : Treated now event payment order s order' s')
include treated

theorem Treated.sameDeal : Order.SameDeal order order' := by
  cases treated with
  | rejected failed unsettled reason => split <;> exact ⟨rfl, rfl, rfl, rfl⟩
  | _ => exact ⟨rfl, rfl, rfl, rfl⟩

theorem Treated.sameMandate : Subscription.SameMandate s s' := by
  cases treated with
  | kept | cancelled => exact .refl s
  | confirmed unsettled confirmed served =>
    rcases served with rfl | served
    · exact .refl _
    · cases served with
      | activated => exact ⟨rfl, rfl⟩
      | recovered => exact .transitioned ..
      | renewed => exact .renewed ..
  | refunded | rejected =>
    split
    · exact .transitioned ..
    · exact .refl s

/-- Once an event has been applied, it has nothing left to do. -/
theorem Treated.quiet : Quiet event payment order' s' := by
  cases treated with
  | kept quiet => exact quiet
  | confirmed unsettled confirmed =>
    subst confirmed
    exact fun unpaid => absurd rfl unpaid.1
  | refunded returned => rcases returned with rfl | rfl <;> exact .inl rfl
  | cancelled called =>
    subst called
    exact nofun
  | rejected failed unsettled =>
    subst failed
    refine ⟨?_, ?_⟩
    · split
      · exact nofun
      · assumption
    · -- An overdue subscription cannot become overdue again.
      intro _ renewal
      have kind : order.kind = .planRenewal := by
        rw [← renewal]
        split <;> rfl
      simp only [kind, true_and]
      split
      · simp [canTransition, allowedTransitions]
      · assumption

/-- A subscription is only activated or paid ahead when an order turns paid, and then once. -/
theorem Treated.serves :
    ((s'.status = .active → s.status = .active) ∧ s'.currentPeriodEndsAt = s.currentPeriodEndsAt) ∨
      order.IsOpen ∧ order'.status = .paid ∧ Served now s s' := by
  cases treated with
  | kept | cancelled => exact .inl ⟨id, rfl⟩
  | confirmed unsettled confirmed served =>
    rcases served with rfl | served
    · exact .inl ⟨id, rfl⟩
    · exact .inr ⟨unsettled, rfl, served⟩
  | refunded | rejected =>
    refine .inl ?_
    split
    · exact ⟨nofun, rfl⟩
    · exact ⟨id, rfl⟩

end Treatment

end Rows

/-- Identifiers that no order carries, with a reference that no provider can have heard of. -/
structure FreshOrder.NewTo (fresh : FreshOrder) (db : Db) (payment : GatewayPayment) : Prop where
  unused : db.orders.get? fresh.id = none
  unreferenced : db.orders.find? (fun _ o => o.externalReference == fresh.externalReference) = none
  unheard : payment.externalReference ≠ some fresh.externalReference

instance (fresh : FreshOrder) (db : Db) (payment : GatewayPayment) :
    Decidable (fresh.NewTo db payment) :=
  decidable_of_iff (db.orders.get? fresh.id = none ∧
      db.orders.find? (fun _ o => o.externalReference == fresh.externalReference) = none ∧
      payment.externalReference ≠ some fresh.externalReference)
    ⟨fun ⟨a, b, c⟩ => ⟨a, b, c⟩, fun ⟨a, b, c⟩ => ⟨a, b, c⟩⟩

section Resolution

variable {db : Db} {id : SubscriptionId} {s : Subscription} {payment : GatewayPayment}
  {provider : PaymentProviderName} {fresh : FreshOrder}

theorem findSubscriptionForPayment_stored
    (found : findSubscriptionForPayment db payment provider = some id) :
    ∃ s, db.subscriptions.get? id = some s := by
  unfold findSubscriptionForPayment at found
  split at found
  · obtain ⟨⟨_, s⟩, located, rfl⟩ := Option.map_eq_some_iff.mp found
    exact ⟨s, (Table.find?_some located).1⟩
  · simp only [Option.bind_eq_bind, Option.bind_eq_some_iff] at found
    obtain ⟨_, -, _, -, _, -, present⟩ := found
    obtain ⟨s, stored, rfl⟩ := Option.map_eq_some_iff.mp present
    exact ⟨s, stored⟩

theorem findOrCreateOrderForPayment_recorded {row : Payment}
    (recorded : db.payments.get? payment.id = some row) :
    findOrCreateOrderForPayment db id s payment provider fresh =
      .ok (db, (db.orders.get? row.orderId).map fun order => (row.orderId, order)) := by
  simp [findOrCreateOrderForPayment, recorded]

theorem findOrCreateOrderForPayment_first {found : OrderId × Order}
    (unrecorded : db.payments.get? payment.id = none)
    (leads : (referencedOrder db payment <|> untouchedInitialOrder db id) = some found) :
    findOrCreateOrderForPayment db id s payment provider fresh = .ok (db, some found) := by
  simp [findOrCreateOrderForPayment, unrecorded, leads]

theorem findOrCreateOrderForPayment_opens (s : Subscription) (provider : PaymentProviderName)
    (unrecorded : db.payments.get? payment.id = none)
    (unreferenced : referencedOrder db payment = none) (touched : untouchedInitialOrder db id = none)
    (drawn : fresh.NewTo db payment) :
    findOrCreateOrderForPayment db id s payment provider fresh =
      .ok ({ db with
          orders := db.orders.add fresh.id
            (recurringOrder id s payment provider fresh.externalReference) drawn.unused },
        some (fresh.id, recurringOrder id s payment provider fresh.externalReference)) := by
  have creates : db.createOrder fresh.id
        (recurringOrder id s payment provider fresh.externalReference) =
      .ok { db with
        orders := db.orders.add fresh.id
          (recurringOrder id s payment provider fresh.externalReference) drawn.unused } :=
    Db.createOrder_ok_iff.mpr ⟨drawn.unreferenced, drawn.unused, rfl⟩
  simp only [findOrCreateOrderForPayment, unrecorded, unreferenced, touched,
    Option.orElse_eq_orElse, Option.orElse_none, creates, ok_bind]
  rfl

theorem findOrCreateOrderForPayment_succeeds (s : Subscription) (provider : PaymentProviderName)
    (drawn : fresh.NewTo db payment) :
    (∃ mid orderId order, findOrCreateOrderForPayment db id s payment provider fresh =
        .ok (mid, some (orderId, order))) ∨
      ∃ row, db.payments.get? payment.id = some row ∧ db.orders.get? row.orderId = none := by
  cases recorded : db.payments.get? payment.id with
  | some row =>
    cases stored : db.orders.get? row.orderId with
    | some order =>
      refine .inl ⟨db, row.orderId, order, ?_⟩
      rw [findOrCreateOrderForPayment_recorded recorded, stored]
      rfl
    | none => exact .inr ⟨row, rfl, stored⟩
  | none =>
    refine .inl ?_
    cases leads : (referencedOrder db payment <|> untouchedInitialOrder db id) with
    | some found => exact ⟨_, _, _, findOrCreateOrderForPayment_first recorded leads⟩
    | none =>
      obtain ⟨unreferenced, touched⟩ : referencedOrder db payment = none ∧
          untouchedInitialOrder db id = none := by simpa using leads
      exact ⟨_, _, _, findOrCreateOrderForPayment_opens s provider recorded unreferenced
        touched drawn⟩

end Resolution

section Deliveries

variable {db mid : Db} {d : Delivery} {id : SubscriptionId} {s : Subscription} {orderId : OrderId}
  {order : Order}

theorem deliver_ignored (ignored : d.event = .ignored) : deliver db d = db := by
  have silent : classifyPayment d.provider d.payment = .ignored := ignored
  simp [deliver, processPaymentEvent, silent]

theorem deliver_unknown (heard : d.event ≠ .ignored)
    (unknown : findSubscriptionForPayment db d.payment d.provider = none) :
    deliver db d = db.record (.webhookOrderNotFound d.notification d.payment.id) := by
  have audible : classifyPayment d.provider d.payment ≠ .ignored := heard
  simp [deliver, processPaymentEvent, audible, unknown]

theorem deliver_known (heard : d.event ≠ .ignored)
    (known : findSubscriptionForPayment db d.payment d.provider = some id) :
    deliver db d =
      commit db (.applyPaymentOutcome d.now id d.event d.payment d.provider d.fresh) := by
  have audible : classifyPayment d.provider d.payment ≠ .ignored := heard
  simp only [deliver, processPaymentEvent, audible, if_false, known, commit, exec, Delivery.event]
  cases applyPaymentOutcome db d.now id (classifyPayment d.provider d.payment) d.payment
    d.provider d.fresh <;> simp [Except.map]

theorem deliver_linked (linked : Linked db) : Linked (deliver db d) := by
  by_cases ignored : d.event = .ignored
  · rwa [deliver_ignored ignored]
  cases known : findSubscriptionForPayment db d.payment d.provider with
  | none =>
    rw [deliver_unknown ignored known]
    exact commit_linked linked (.orderNotFound d.notification d.payment.id)
  | some id =>
    rw [deliver_known ignored known]
    exact commit_linked linked _

theorem deliver_lost (heard : d.event ≠ .ignored)
    (known : findSubscriptionForPayment db d.payment d.provider = some id) {row : Payment}
    (recorded : db.payments.get? d.payment.id = some row)
    (lost : db.orders.get? row.orderId = none) : deliver db d = db := by
  obtain ⟨s, stored⟩ := findSubscriptionForPayment_stored known
  simp [deliver_known heard known, commit, exec, applyPaymentOutcome, stored,
    findOrCreateOrderForPayment_recorded recorded, lost, Except.map, Pure.pure, Except.pure]

theorem deliver_settles (linked : Linked db) (heard : d.event ≠ .ignored)
    (known : findSubscriptionForPayment db d.payment d.provider = some id)
    (stored : db.subscriptions.get? id = some s)
    (resolves : findOrCreateOrderForPayment db id s d.payment d.provider d.fresh =
      .ok (mid, some (orderId, order))) :
    ∃ answer, Settled mid d.now id s d.event d.payment orderId order (deliver db d) answer := by
  obtain ⟨found, subscriptions, servers⟩ := (resolved_of_found resolves).frame
  have stored' : mid.subscriptions.get? id = some s := by rw [subscriptions, stored]
  have attached : ¬mid.lacksServer s := by
    rintro ⟨server, held, missing⟩
    obtain ⟨row, present⟩ := linked.attached stored held
    simp [servers, present] at missing
  obtain ⟨⟨after, answer⟩, settles, settled⟩ :=
    (settleOrder_yields stored' found d.event).answers attached
  have applies : applyPaymentOutcome db d.now id d.event d.payment d.provider d.fresh =
      .ok (after, answer) := by
    simpa only [applyPaymentOutcome, stored, resolves, ok_bind] using settles
  have delivered : deliver db d = after := by
    rw [deliver_known heard known]
    simp [commit, exec, applies, Except.map]
  exact ⟨answer, delivered ▸ settled⟩

end Deliveries

end PxHost
