import PxHost.System.Redelivery

/-! One recurring charge, announced both as a payment and as a charge of its preapproval. -/

namespace PxHost

open Store Machine

/--
A card subscription whose first order is paid, and a new approved charge of its preapproval.
Each announcement carries no reference, or the one the preapproval was created with.
-/
structure RecurringCharge (db : Db) (id : SubscriptionId) (s : Subscription) (first : OrderId)
    (initial : Order) (pay : MpPayment) (auth : MpAuthorizedPayment) : Prop where
  stored : db.subscriptions.get? id = some s
  provider : s.paymentProvider = .mercadopago
  preapproval : truthy auth.preapprovalId = s.externalSubscriptionId
  authorized : s.externalSubscriptionId.isSome
  exclusive : ∀ {id' s'}, db.subscriptions.get? id' = some s' →
    s'.externalSubscriptionId = s.externalSubscriptionId → id' = id
  ordered : db.orders.get? first = some initial
  owner : initial.subscriptionId = some id
  soldBy : initial.provider = .mercadopago
  paid : initial.status = .paid
  unique : ∀ {k o}, db.orders.get? k = some o →
    o.externalReference = initial.externalReference → k = first
  only : ∀ {k o}, db.orders.get? k = some o → o.subscriptionId = some id →
    o.kind = .planInitial → k = first
  new : db.payments.get? pay.id = none
  sameCharge : (getAuthorizedPayment auth).id = pay.id
  approved : pay.status = "approved"
  processed : (getAuthorizedPayment auth).status = "approved"
  payReference : truthy pay.externalReference = none ∨
    truthy pay.externalReference = some initial.externalReference
  authReference : truthy auth.externalReference = none ∨
    truthy auth.externalReference = some initial.externalReference

/-- The delivery is about the charge, in one of its two announcements. -/
def Announces (pay : MpPayment) (auth : MpAuthorizedPayment) (d : Delivery) : Prop :=
  d.provider = .mercadopago ∧
    (d.payment = toGatewayPayment pay ∨ d.payment = getAuthorizedPayment auth)

/-- One new renewal is paid, no other order is touched, and the period is one longer. -/
def ChargedOnce (db after : Db) (id : SubscriptionId) (s : Subscription) (times : List Time) :
    Prop :=
  (∃ k o, db.orders.get? k = none ∧ after.orders.get? k = some o ∧ o.subscriptionId = some id ∧
    o.kind = .planRenewal ∧ o.status = .paid ∧
    ∀ other, other ≠ k → after.orders.get? other = db.orders.get? other) ∧
  ∃ now ∈ times, (after.subscriptions.get? id).map (·.currentPeriodEndsAt) =
    some (some (nextPeriodEnd (renewalAnchor now s) s.billingPeriod))

section Steps

variable {db base after : Db} {id : SubscriptionId} {s : Subscription} {first orderId : OrderId}
  {initial order : Order} {pay : MpPayment} {auth : MpAuthorizedPayment} {d : Delivery}

/-- An approved charge that is resolved to a paid order is recorded and does nothing else. -/
theorem deliver_repeated (linked : Linked db) (confirmed : d.event = .paymentConfirmed)
    (known : findSubscriptionForPayment db d.payment d.provider = some id)
    (stored : db.subscriptions.get? id = some s)
    (resolves : findOrCreateOrderForPayment db id s d.payment d.provider d.fresh =
      .ok (db, some (orderId, order)))
    (paid : order.status = .paid) : deliver db d = recordFromGateway db orderId d.payment := by
  have heard : d.event ≠ .ignored := by simp [confirmed]
  obtain ⟨_, settled⟩ := deliver_settles linked heard known stored resolves
  generalize deliver db d = after at settled ⊢
  cases settled with
  | repeated => rfl
  | absorbed closed => simp [paid] at closed
  | noted unsettled | mismatched unsettled | confirmed unsettled | rejected unsettled
  | unmoved unsettled => exact absurd paid unsettled.1
  | refunded unsettled returned => simp [confirmed] at returned
  | cancelled pending => simp [paid] at pending

theorem deliver_repaid (linked : Linked db) (confirmed : d.event = .paymentConfirmed)
    {row : Payment} (recorded : db.payments.get? d.payment.id = some row)
    (found : db.orders.get? row.orderId = some order) (paid : order.status = .paid) :
    SameBooks db (deliver db d) ∧ ∃ row', (deliver db d).payments.get? d.payment.id = some row' ∧
      row'.orderId = row.orderId := by
  have heard : d.event ≠ .ignored := by simp [confirmed]
  cases known : findSubscriptionForPayment db d.payment d.provider with
  | none =>
    rw [deliver_unknown heard known]
    exact ⟨⟨rfl, rfl, rfl⟩, row, recorded, rfl⟩
  | some id =>
    obtain ⟨s, stored⟩ := findSubscriptionForPayment_stored known
    have resolves : findOrCreateOrderForPayment db id s d.payment d.provider d.fresh =
        .ok (db, some (row.orderId, order)) := by
      rw [findOrCreateOrderForPayment_recorded recorded, found]
      rfl
    rw [deliver_repeated linked confirmed known stored resolves paid]
    refine ⟨⟨rfl, rfl, rfl⟩, row.updated d.payment, ?_, rfl⟩
    simp [recordFromGateway, recorded]

theorem unknown_without_reference (silent : truthy pay.externalReference = none) :
    findSubscriptionForPayment db (toGatewayPayment pay) .mercadopago = none := by
  have anonymous : truthy (toGatewayPayment pay).subscriptionExternalId = none := rfl
  have sent : truthy (toGatewayPayment pay).externalReference = none := silent
  simp [findSubscriptionForPayment, anonymous, sent]

theorem referencedOrder_first {payment : GatewayPayment}
    (ordered : db.orders.get? first = some initial)
    (unique : ∀ {k o}, db.orders.get? k = some o →
      o.externalReference = initial.externalReference → k = first)
    (echoes : truthy payment.externalReference = some initial.externalReference) :
    referencedOrder db payment = some (first, initial) := by
  have located : db.orders.find? (fun _ o => o.externalReference == initial.externalReference) =
      some (first, initial) := by
    refine Table.find?_unique ordered (by simp) ?_
    intro k o stored matched
    exact unique stored (by simpa using matched)
  simp [referencedOrder, echoes, located]

/-- Up to now the charge has renewed nothing, and what it is on record for is the first order. -/
structure Stalled (db after : Db) (first : OrderId) (initial : Order) (charge : PaymentId)
    (hopeless : Prop) : Prop where
  subscriptions : after.subscriptions = db.subscriptions
  kept : ∀ {k o}, db.orders.get? k = some o → after.orders.get? k = some o
  opened : ∀ {k o}, db.orders.get? k = none → after.orders.get? k = some o →
    o.kind = .planRenewal ∧ o.status = .pending
  unique : ∀ {k o}, after.orders.get? k = some o →
    o.externalReference = initial.externalReference → k = first
  charge : (after.payments.get? charge = none ∧ hopeless) ∨
    ∃ row, after.payments.get? charge = some row ∧ row.orderId = first

/-- Recording the charge for the first order leaves it stalled for good. -/
theorem Stalled.of_books {hopeless later : Prop} {row : Payment}
    (before : Stalled db base first initial pay.id hopeless) (books : SameBooks base after)
    (recorded : after.payments.get? pay.id = some row) (same : row.orderId = first) :
    Stalled db after first initial pay.id later where
  subscriptions := books.subscriptions.trans before.subscriptions
  kept := fun stored => books.orders ▸ before.kept stored
  opened := fun missing stored => before.opened missing (books.orders ▸ stored)
  unique := fun stored => before.unique (books.orders ▸ stored)
  charge := .inr ⟨row, recorded, same⟩

theorem Stalled.not_charged {hopeless : Prop} {times : List Time} {charge : PaymentId}
    (stalled : Stalled db after first initial charge hopeless) :
    ¬ ChargedOnce db after id s times := by
  rintro ⟨⟨k, o, missing, stored, -, -, paid, -⟩, -⟩
  have pending := (stalled.opened missing stored).2
  simp [paid] at pending

variable (charge : RecurringCharge db id s first initial pay auth)

include charge

theorem RecurringCharge.event (announces : Announces pay auth d) : d.event = .paymentConfirmed := by
  obtain ⟨provider, sent | sent⟩ := announces
  · simp [Delivery.event, provider, sent, classifyPayment, toGatewayPayment, charge.approved,
      classifyMercadoPagoPayment]
  · simp [Delivery.event, provider, sent, classifyPayment, charge.processed,
      classifyMercadoPagoPayment]

theorem RecurringCharge.payment_id (announces : Announces pay auth d) : d.payment.id = pay.id := by
  obtain ⟨-, sent | sent⟩ := announces
  · rw [sent]
    rfl
  · rw [sent, charge.sameCharge]

theorem RecurringCharge.known_by_preapproval (same : base.subscriptions = db.subscriptions) :
    findSubscriptionForPayment base (getAuthorizedPayment auth) .mercadopago = some id := by
  obtain ⟨externalId, sent⟩ := Option.isSome_iff_exists.mp charge.authorized
  have named : truthy (getAuthorizedPayment auth).subscriptionExternalId = some externalId :=
    charge.preapproval.trans sent
  have located : db.subscriptions.find? (fun _ row => row.externalSubscriptionId == some externalId
      && row.paymentProvider == .mercadopago) = some (id, s) := by
    refine Table.find?_unique charge.stored (by simp [sent, charge.provider]) ?_
    intro id' s' stored' matched
    simp only [Bool.and_eq_true, beq_iff_eq] at matched
    exact charge.exclusive stored' (matched.1.trans sent.symm)
  simp [findSubscriptionForPayment, named, same, located]

theorem RecurringCharge.known_by_reference {hopeless : Prop}
    (before : Stalled db base first initial pay.id hopeless)
    (echoes : truthy pay.externalReference = some initial.externalReference) :
    findSubscriptionForPayment base (toGatewayPayment pay) .mercadopago = some id := by
  have located : base.orders.find? (fun _ o => o.externalReference == initial.externalReference
      && o.provider == .mercadopago) = some (first, initial) := by
    refine Table.find?_unique (before.kept charge.ordered) (by simp [charge.soldBy]) ?_
    intro k o stored matched
    simp only [Bool.and_eq_true, beq_iff_eq] at matched
    exact before.unique stored matched.1
  have anonymous : truthy (toGatewayPayment pay).subscriptionExternalId = none := rfl
  have sent : truthy (toGatewayPayment pay).externalReference = some initial.externalReference :=
    echoes
  simp [findSubscriptionForPayment, anonymous, sent, located, charge.owner, before.subscriptions,
    charge.stored]

theorem RecurringCharge.stalled {hopeless : Prop} (lasts : hopeless)
    (orders : base.orders = db.orders) (subscriptions : base.subscriptions = db.subscriptions)
    (payments : base.payments = db.payments) :
    Stalled db base first initial pay.id hopeless where
  subscriptions := subscriptions
  kept := fun stored => orders ▸ stored
  opened := fun missing stored => by simp [orders, missing] at stored
  unique := fun stored => charge.unique (orders ▸ stored)
  charge := .inl ⟨by rw [payments, charge.new], lasts⟩

theorem RecurringCharge.touched {hopeless : Prop}
    (before : Stalled db base first initial pay.id hopeless) :
    untouchedInitialOrder base id = none := by
  cases waiting : untouchedInitialOrder base id with
  | none => rfl
  | some found =>
    obtain ⟨k, o⟩ := found
    obtain ⟨present, matched⟩ := Table.find?_some (Option.eq_some_of_filter_eq_some waiting)
    simp only [Bool.and_eq_true, beq_iff_eq] at matched
    obtain ⟨⟨owner, kind⟩, pending⟩ := matched
    cases stored : db.orders.get? k with
    | none =>
      have renewal := (before.opened stored present).1
      simp [kind] at renewal
    | some o' =>
      obtain rfl : o' = o := by simpa [before.kept stored] using present
      obtain rfl := charge.only stored owner kind
      obtain rfl : o' = initial := by simpa [charge.ordered] using stored.symm
      simp [charge.paid] at pending

/-- A charge that echoes the first order is booked on it, and never renews anything. -/
theorem RecurringCharge.stalled_of_echo {hopeless later : Prop} (linked : Linked base)
    (announces : Announces pay auth d)
    (before : Stalled db base first initial pay.id hopeless)
    (unrecorded : base.payments.get? pay.id = none)
    (known : findSubscriptionForPayment base d.payment d.provider = some id)
    (echoes : truthy d.payment.externalReference = some initial.externalReference) :
    Stalled db (deliver base d) first initial pay.id later := by
  have same := charge.payment_id announces
  have stored : base.subscriptions.get? id = some s := by
    rw [before.subscriptions, charge.stored]
  have leads := referencedOrder_first (before.kept charge.ordered) before.unique echoes
  have resolves : findOrCreateOrderForPayment base id s d.payment d.provider d.fresh =
      .ok (base, some (first, initial)) :=
    findOrCreateOrderForPayment_first (by rw [same, unrecorded]) (by simp [leads])
  have booked := deliver_repeated linked (charge.event announces) known stored resolves charge.paid
  have books : SameBooks base (deliver base d) := by
    rw [booked]
    exact ⟨rfl, rfl, rfl⟩
  have recorded : (deliver base d).payments.get? pay.id = some (newPayment first d.payment) := by
    rw [booked]
    simp [recordFromGateway, same, unrecorded]
  exact before.of_books books recorded rfl

/-- A charge without an amount opens a renewal that it does not pay. -/
theorem RecurringCharge.stalled_of_unpriced {hopeless : Prop} (linked : Linked base)
    (drawn : d.fresh.NewTo base d.payment) (announces : Announces pay auth d)
    (before : Stalled db base first initial pay.id hopeless) (lasts : hopeless)
    (unrecorded : base.payments.get? pay.id = none)
    (known : findSubscriptionForPayment base d.payment d.provider = some id)
    (silent : truthy d.payment.externalReference = none)
    (unpriced : d.payment.amountCents = none) :
    Stalled db (deliver base d) first initial pay.id hopeless := by
  have confirmed := charge.event announces
  have stored : base.subscriptions.get? id = some s := by
    rw [before.subscriptions, charge.stored]
  have resolves := findOrCreateOrderForPayment_opens s d.provider
    (by rw [charge.payment_id announces, unrecorded]) (by simp [referencedOrder, silent])
    (charge.touched before) drawn
  obtain ⟨_, settled⟩ := deliver_settles linked (by simp [confirmed]) known stored resolves
  -- The new order sits beside the others under an unused key and an unused reference.
  have orders (k : OrderId) : (deliver base d).orders.get? k = if k = d.fresh.id then
      some (recurringOrder id s d.payment d.provider d.fresh.externalReference)
      else base.orders.get? k := by
    rw [settled.unpriced confirmed unpriced rfl]
    exact Table.get?_add _ _ _ _ drawn.unused
  have payments : (deliver base d).payments = base.payments := by
    rw [settled.unpriced confirmed unpriced rfl]
    rfl
  refine ⟨?_, ?_, ?_, ?_, .inl ⟨by rw [payments, unrecorded], lasts⟩⟩
  · rw [settled.unpriced confirmed unpriced rfl]
    exact before.subscriptions
  · intro k o stored
    have other : k ≠ d.fresh.id := by
      rintro rfl
      have kept := before.kept stored
      simp [drawn.unused] at kept
    rw [orders, if_neg other, before.kept stored]
  · intro k o missing stored
    rw [orders] at stored
    split at stored
    · obtain rfl := Option.some.inj stored
      exact ⟨rfl, rfl⟩
    · exact before.opened missing stored
  · intro k o stored echoes
    rw [orders] at stored
    split at stored
    · obtain rfl := Option.some.inj stored
      have carried := Table.find?_none drawn.unreferenced (before.kept charge.ordered)
      simp [← echoes, recurringOrder] at carried
    · exact before.unique stored echoes

theorem RecurringCharge.stalled_step (linked : Linked base) (drawn : d.fresh.NewTo base d.payment)
    (announces : Announces pay auth d)
    (before : Stalled db base first initial pay.id
      (truthy auth.externalReference ≠ none ∨ auth.transactionAmount = none)) :
    Stalled db (deliver base d) first initial pay.id
      (truthy auth.externalReference ≠ none ∨ auth.transactionAmount = none) := by
  have confirmed := charge.event announces
  have same := charge.payment_id announces
  rcases before.charge with ⟨unrecorded, hopeless⟩ | ⟨row, recorded, booked⟩
  swap
  · -- Once on record for the paid first order, the charge is only ever recorded again.
    have found : base.orders.get? row.orderId = some initial := by
      rw [booked, before.kept charge.ordered]
    obtain ⟨books, row', recorded', booked'⟩ :=
      deliver_repaid linked confirmed (by rwa [same]) found charge.paid
    exact before.of_books books (by rwa [← same]) (booked'.trans booked)
  obtain ⟨provider, sent | sent⟩ := announces
  · rcases charge.payReference with silent | echoes
    · have unknown : findSubscriptionForPayment base d.payment d.provider = none := by
        rw [sent, provider, unknown_without_reference silent]
      rw [deliver_unknown (by simp [confirmed]) unknown]
      exact ⟨before.subscriptions, before.kept, before.opened, before.unique, before.charge⟩
    · have known := charge.known_by_reference before echoes
      exact charge.stalled_of_echo linked ⟨provider, .inl sent⟩ before unrecorded
        (by rwa [sent, provider]) (by rw [sent]; exact echoes)
  · have known := charge.known_by_preapproval before.subscriptions
    rcases charge.authReference with silent | echoes
    · have unpriced : auth.transactionAmount = none := by simpa [silent] using hopeless
      exact charge.stalled_of_unpriced linked drawn ⟨provider, .inr sent⟩ before hopeless unrecorded
        (by rwa [sent, provider]) (by rw [sent]; exact silent)
        (by rw [sent]; simp [getAuthorizedPayment, unpriced])
    · exact charge.stalled_of_echo linked ⟨provider, .inr sent⟩ before unrecorded
        (by rwa [sent, provider]) (by rw [sent]; exact echoes)

structure Renewed (db after : Db) (id : SubscriptionId) (s : Subscription) (charge : PaymentId)
    (times : List Time) : Prop where
  once : ChargedOnce db after id s times
  recorded : ∃ row o, after.payments.get? charge = some row ∧
    after.orders.get? row.orderId = some o ∧ o.status = .paid

theorem RecurringCharge.renewed_step {times : List Time} (linked : Linked base)
    (announces : Announces pay auth d) (before : Renewed db base id s pay.id times) :
    Renewed db (deliver base d) id s pay.id times := by
  have same := charge.payment_id announces
  obtain ⟨row, o, recorded, found, paid⟩ := before.recorded
  obtain ⟨books, row', recorded', booked'⟩ :=
    deliver_repaid linked (charge.event announces) (by rwa [same]) found paid
  refine ⟨?_, row', o, by rwa [← same], by rw [booked', books.orders, found], paid⟩
  simpa only [ChargedOnce, books.orders, books.subscriptions] using before.once

/-- The first announcement through the preapproval renews the subscription. -/
theorem RecurringCharge.renews (linked : Linked base) (drawn : d.fresh.NewTo base d.payment)
    (provider : d.provider = .mercadopago) (sent : d.payment = getAuthorizedPayment auth)
    (silent : truthy auth.externalReference = none) (priced : auth.transactionAmount ≠ none)
    (orders : base.orders = db.orders) (subscriptions : base.subscriptions = db.subscriptions)
    (payments : base.payments = db.payments) :
    Renewed db (deliver base d) id s pay.id [d.now] := by
  have announces : Announces pay auth d := ⟨provider, .inr sent⟩
  have confirmed := charge.event announces
  have same := charge.payment_id announces
  have stored : base.subscriptions.get? id = some s := by rw [subscriptions, charge.stored]
  have known : findSubscriptionForPayment base d.payment d.provider = some id := by
    rw [sent, provider]
    exact charge.known_by_preapproval subscriptions
  have before : Stalled db base first initial pay.id True :=
    charge.stalled trivial orders subscriptions payments
  have unrecorded : base.payments.get? d.payment.id = none := by rw [same, payments, charge.new]
  have unreferenced : referencedOrder base d.payment = none := by
    rw [sent]
    simp [referencedOrder, getAuthorizedPayment, silent]
  have resolves := findOrCreateOrderForPayment_opens s d.provider unrecorded unreferenced
    (charge.touched before) drawn
  obtain ⟨_, settled⟩ := deliver_settles linked (by simp [confirmed]) known stored resolves
  -- The renewal was opened for the amount of the charge, so the charge pays it.
  have amount : d.payment.amountCents =
      some (recurringOrder id s d.payment d.provider d.fresh.externalReference).amountCents := by
    obtain ⟨units, price⟩ := Option.ne_none_iff_exists'.mp priced
    simp [recurringOrder, sent, getAuthorizedPayment, price]
  rcases settled.of_confirmed confirmed rfl with ⟨mismatch, -⟩ | ⟨-, restored⟩
  · exact absurd amount mismatch
  generalize deliver base d = after at restored ⊢
  cases restored with
  | activated unlike | recovered unlike | resumed _ unlike | untouched unlike =>
    exact absurd rfl unlike
  | renewed =>
    have paidOrder : ((base.orders.add d.fresh.id (recurringOrder id s d.payment d.provider
          d.fresh.externalReference) drawn.unused).modify d.fresh.id
            (·.paid d.now s d.payment)).get? d.fresh.id =
        some ((recurringOrder id s d.payment d.provider d.fresh.externalReference).paid d.now s
          d.payment) := by simp
    refine ⟨⟨⟨d.fresh.id, _, by rw [← orders, drawn.unused], paidOrder, rfl, rfl, rfl, ?_⟩, d.now,
      by simp, ?_⟩, newPayment d.fresh.id d.payment, _, ?_, paidOrder, rfl⟩
    · intro other apart
      simp [Db.record, Db.renewed, Db.markedPaid, apart, orders]
    · simp [Db.record, Db.renewed, Db.markedPaid, recordFromGateway, stored, Subscription.renewed,
        Subscription.paidUntil]
    · simp [Db.record, Db.renewed, Db.markedPaid, recordFromGateway, ← same, unrecorded]

end Steps

section Runs

variable {db base : Db} {id : SubscriptionId} {s : Subscription} {first : OrderId} {initial : Order}
  {pay : MpPayment} {auth : MpAuthorizedPayment} {ds : List Delivery}
  (charge : RecurringCharge db id s first initial pay auth)

include charge

theorem RecurringCharge.stalled_run (linked : Linked base)
    (announced : ∀ d ∈ ds, Announces pay auth d)
    (drawn : Guarded deliver (fun db d => d.fresh.NewTo db d.payment) base ds)
    (before : Stalled db base first initial pay.id
      (truthy auth.externalReference ≠ none ∨ auth.transactionAmount = none)) :
    Stalled db (run deliver base ds) first initial pay.id
      (truthy auth.externalReference ≠ none ∨ auth.transactionAmount = none) := by
  induction ds generalizing base with
  | nil => exact before
  | cons d rest ih =>
    have next := charge.stalled_step linked drawn.1 (announced d (by simp)) before
    exact ih (deliver_linked linked) (fun d' later => announced d' (by simp [later])) drawn.2 next

theorem RecurringCharge.renewed_run {times : List Time} (linked : Linked base)
    (announced : ∀ d ∈ ds, Announces pay auth d) (before : Renewed db base id s pay.id times) :
    Renewed db (run deliver base ds) id s pay.id times := by
  induction ds generalizing base with
  | nil => exact before
  | cons d rest ih =>
    have next := charge.renewed_step linked (announced d (by simp)) before
    exact ih (deliver_linked linked) (fun d' later => announced d' (by simp [later])) next

theorem RecurringCharge.renewed_of_authorized (linked : Linked base)
    (announced : ∀ d ∈ ds, Announces pay auth d)
    (drawn : Guarded deliver (fun db d => d.fresh.NewTo db d.payment) base ds)
    (silent : truthy auth.externalReference = none) (priced : auth.transactionAmount ≠ none)
    (harmless : truthy pay.externalReference = none ∨
      ds.head?.map (·.payment) = some (getAuthorizedPayment auth))
    (authorized : ∃ d ∈ ds, d.payment = getAuthorizedPayment auth)
    (orders : base.orders = db.orders) (subscriptions : base.subscriptions = db.subscriptions)
    (payments : base.payments = db.payments) :
    ChargedOnce db (run deliver base ds) id s (ds.map (·.now)) := by
  -- Announcements that reach nobody come first, until one through the preapproval does.
  induction ds generalizing base with
  | nil => simp at authorized
  | cons d rest ih =>
    obtain ⟨provider, sent⟩ := announced d (by simp)
    have others : ∀ d' ∈ rest, Announces pay auth d' := fun d' later => announced d' (by simp [later])
    by_cases direct : d.payment = getAuthorizedPayment auth
    · have renewed := charge.renews linked drawn.1 provider direct silent priced orders
        subscriptions payments
      obtain ⟨order, now, listed, extended⟩ :=
        (charge.renewed_run (deliver_linked linked) others renewed).once
      obtain rfl : now = d.now := by simpa using listed
      exact ⟨order, d.now, by simp, extended⟩
    · have quiet : truthy pay.externalReference = none := by simpa [direct] using harmless
      have unknown : findSubscriptionForPayment base d.payment d.provider = none := by
        rw [sent.resolve_right direct, provider, unknown_without_reference quiet]
      have heard : d.event ≠ .ignored := by simp [charge.event ⟨provider, sent⟩]
      have recorded := deliver_unknown heard unknown
      have rest' := ih (deliver_linked linked) others drawn.2 (.inl quiet)
        (by simpa [direct] using authorized) (by rw [recorded]; exact orders)
        (by rw [recorded]; exact subscriptions) (by rw [recorded]; exact payments)
      obtain ⟨order, now, listed, extended⟩ := rest'
      exact ⟨order, now, by simp [listed], extended⟩

end Runs

/--
A recurring charge counts exactly once unless one of its announcements echoes the reference of the
first order before the charge has been booked on a renewal, or the charge comes without an amount.
-/
theorem recurring_charge_counts_once_iff (db : Db) (id : SubscriptionId) (s : Subscription)
    (first : OrderId) (initial : Order) (pay : MpPayment) (auth : MpAuthorizedPayment)
    (ds : List Delivery) (charge : RecurringCharge db id s first initial pay auth)
    (linked : Linked db) (announced : ∀ d ∈ ds, Announces pay auth d)
    (authorized : ∃ d ∈ ds, d.payment = getAuthorizedPayment auth)
    (drawn : Guarded deliver (fun db d => d.fresh.NewTo db d.payment) db ds) :
    ChargedOnce db (run deliver db ds) id s (ds.map (·.now)) ↔
      truthy auth.externalReference = none ∧ auth.transactionAmount ≠ none ∧
        (truthy pay.externalReference = none ∨
          ds.head?.map (·.payment) = some (getAuthorizedPayment auth)) := by
  constructor
  · intro once
    by_cases hopeless : truthy auth.externalReference ≠ none ∨ auth.transactionAmount = none
    · have before := charge.stalled hopeless rfl rfl rfl
      exact absurd once (charge.stalled_run linked announced drawn before).not_charged
    simp only [ne_eq, not_or, not_not] at hopeless
    refine ⟨hopeless.1, hopeless.2, ?_⟩
    by_contra harmful
    simp only [not_or] at harmful
    cases ds with
    | nil => simp at authorized
    | cons d rest =>
      -- The first announcement books the charge on the first order, and all others follow it.
      obtain ⟨provider, sent⟩ := announced d (by simp)
      have paid : d.payment = toGatewayPayment pay := sent.resolve_right (by simpa using harmful.2)
      have echoes := charge.payReference.resolve_left harmful.1
      have start : Stalled db db first initial pay.id True := charge.stalled trivial rfl rfl rfl
      have known := charge.known_by_reference start echoes
      have booked : Stalled db (deliver db d) first initial pay.id
          (truthy auth.externalReference ≠ none ∨ auth.transactionAmount = none) :=
        charge.stalled_of_echo linked ⟨provider, .inl paid⟩ start charge.new
          (by rwa [paid, provider]) (by rw [paid]; exact echoes)
      exact (charge.stalled_run (deliver_linked linked)
        (fun d' later => announced d' (by simp [later])) drawn.2 booked).not_charged once
  · rintro ⟨silent, priced, harmless⟩
    exact charge.renewed_of_authorized linked announced drawn silent priced harmless authorized rfl
      rfl rfl

def samplePay : MpPayment where
  id := "card-2"
  status := "approved"
  externalReference := some "ord_a"
  transactionAmount := some (299 / 10)

def sampleAuth : MpAuthorizedPayment where
  id := "auth-2"
  preapprovalId := some "pre-1"
  status := some "processed"
  transactionAmount := some (299 / 10)
  payment := some ⟨"card-2", some "approved", none⟩

/-- The two announcements, worked off at some instant. -/
def sampleAnnouncement (payment : GatewayPayment) (now : Time) (fresh : FreshOrder) : Delivery :=
  ⟨"n6", .mercadopago, payment, now, fresh⟩

theorem sample_recurring_charge :
    RecurringCharge sampleCard 20 ((sampleCard.subscriptions.get? 20).get (by decide)) 10
      ((sampleCard.orders.get? 10).get (by decide)) samplePay sampleAuth where
  stored := (Option.some_get (by decide)).symm
  provider := by decide
  preapproval := by decide
  authorized := by decide
  exclusive := fun stored _ => by
    have keys : sampleCard.subscriptions.rows.map Prod.fst = [20] := by decide
    simpa [keys] using Table.key_mem stored
  ordered := (Option.some_get (by decide)).symm
  owner := by decide
  soldBy := by decide
  paid := by decide
  unique := fun stored _ => by
    have keys : sampleCard.orders.rows.map Prod.fst = [10] := by decide
    simpa [keys] using Table.key_mem stored
  only := fun stored _ _ => by
    have keys : sampleCard.orders.rows.map Prod.fst = [10] := by decide
    simpa [keys] using Table.key_mem stored
  new := by decide
  sameCharge := by decide
  approved := by decide
  processed := by decide
  payReference := by decide
  authReference := by decide

/-- Announced through the preapproval first, the charge renews the subscription once. -/
theorem sample_recurring_charge_counts_once :
    ChargedOnce sampleCard (run deliver sampleCard [
        sampleAnnouncement (getAuthorizedPayment sampleAuth) 2000 ⟨12, "ord_c"⟩,
        sampleAnnouncement (toGatewayPayment samplePay) 3000 ⟨13, "ord_d"⟩,
        sampleAnnouncement (getAuthorizedPayment sampleAuth) 4000 ⟨14, "ord_e"⟩])
      20 ((sampleCard.subscriptions.get? 20).get (by decide)) [2000, 3000, 4000] :=
  (recurring_charge_counts_once_iff sampleCard 20 _ 10 _ samplePay sampleAuth _
    sample_recurring_charge (run_linked (.of_empty rfl rfl rfl) _)
    (by simp [sampleAnnouncement, Announces]) (by simp [sampleAnnouncement])
    (by decide +kernel)).mpr (by decide +kernel)

/-- Announced as a payment first, the same charge is booked on the first order and lost. -/
theorem recurring_charge_is_lost :
    ((run deliver sampleCard [
        sampleAnnouncement (toGatewayPayment samplePay) 2000 ⟨12, "ord_c"⟩,
        sampleAnnouncement (getAuthorizedPayment sampleAuth) 3000 ⟨13, "ord_d"⟩]).payments.get?
      "card-2").map (·.orderId) = some 10 ∧
    ¬ ChargedOnce sampleCard (run deliver sampleCard [
        sampleAnnouncement (toGatewayPayment samplePay) 2000 ⟨12, "ord_c"⟩,
        sampleAnnouncement (getAuthorizedPayment sampleAuth) 3000 ⟨13, "ord_d"⟩])
      20 ((sampleCard.subscriptions.get? 20).get (by decide)) [2000, 3000] := by
  have unchanged : (run deliver sampleCard [
      sampleAnnouncement (toGatewayPayment samplePay) 2000 ⟨12, "ord_c"⟩,
      sampleAnnouncement (getAuthorizedPayment sampleAuth) 3000 ⟨13, "ord_d"⟩]).orders =
    sampleCard.orders := by decide +kernel
  refine ⟨by decide +kernel, ?_⟩
  rintro ⟨⟨k, o, missing, stored, -⟩, -⟩
  rw [unchanged, missing] at stored
  cases stored

end PxHost
