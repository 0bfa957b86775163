import PxHost.Payments.Orders
import PxHost.Subscriptions.ServiceLaws

/-! What a checkout, a charge or a renewal did when it succeeded. -/

namespace PxHost

open Store Fallible

variable {db after : Db} {now : Time}

def checkoutSubscription (userId : UserId) (dto : CreateCheckoutDto) (plan : Plan)
    (period : BillingPeriod) : Subscription :=
  { pendingSubscription userId dto.planId plan period with
    paymentMethod := some dto.paymentMethod
    paymentProvider := dto.provider }

/-- A checkout resumes an order, or opens one, perhaps after cancelling the one it replaces. -/
inductive CheckedOut (db : Db) (now : Time) (userId : UserId) (dto : CreateCheckoutDto)
    (subscriptionId : SubscriptionId) (fresh : FreshOrder) : Db → CheckoutResult → Prop where
  | reused (id : OrderId) : CheckedOut db now userId dto subscriptionId fresh db (.reused id)
  | created {base : Db} {plan : Plan} {period : BillingPeriod} (ttlMinutes : Int)
      (replaced : base = db ∨ ∃ id duplicate,
        findDuplicateCheckout db now userId dto.planId = some (id, duplicate) ∧
          base = cancelSupersededCheckout db id duplicate)
      (planned : db.plans.get? dto.planId = some plan)
      (room : ∀ max, plan.maxSlots = some max → occupiedSlots base dto.planId < max)
      (newSubscription : base.subscriptions.get? subscriptionId = none)
      (newOrder : base.orders.get? fresh.id = none) :
    CheckedOut db now userId dto subscriptionId fresh
      { base with
        subscriptions := base.subscriptions.add subscriptionId
          (checkoutSubscription userId dto plan period) newSubscription
        subscriptionEvents := base.subscriptionEvents ++
          [⟨subscriptionId, none, .pending, some userId, none, now⟩]
        orders := base.orders.add fresh.id (newCheckoutOrder now userId dto plan subscriptionId
          fresh.externalReference ttlMinutes) newOrder }
      (.created fresh.id subscriptionId)

variable {subscriptionId : SubscriptionId} {fresh : FreshOrder}

theorem createCheckoutOrder_ok {userId : UserId} {dto : CreateCheckoutDto} {ttlMinutes : Option Int}
    {result : CheckoutResult}
    (checksOut : createCheckoutOrder db now userId dto subscriptionId fresh ttlMinutes =
      .ok (after, result)) :
    CheckedOut db now userId dto subscriptionId fresh after result := by
  simp only [createCheckoutOrder, bind_eq_ok_iff] at checksOut
  obtain ⟨⟨plan, period⟩, valid, checksOut⟩ := checksOut
  have planned := lockAndValidatePlanForSubscription_ok valid
  -- Opening the order is the same from the database as it was and from the cleaned-up one.
  have opens : ∀ base, (base = db ∨ ∃ id duplicate,
      findDuplicateCheckout db now userId dto.planId = some (id, duplicate) ∧
        base = cancelSupersededCheckout db id duplicate) →
      (∃ mid, createPendingSubscription base now subscriptionId userId dto.planId plan period =
          .ok mid ∧ ∃ updated, mid.updateSubscription subscriptionId (fun s =>
            { s with paymentMethod := some dto.paymentMethod, paymentProvider := dto.provider }) =
            .ok updated ∧ ∃ last, updated.createOrder fresh.id (newCheckoutOrder now userId dto plan
              subscriptionId fresh.externalReference
              (checkoutTtlMinutes ttlMinutes dto.paymentMethod)) = .ok last ∧
            (last, CheckoutResult.created fresh.id subscriptionId) = (after, result)) →
      CheckedOut db now userId dto subscriptionId fresh after result := by
    rintro base replaced ⟨_, creates, _, updates, _, orders, same⟩
    obtain ⟨room, unused, rfl⟩ := createPendingSubscription_ok creates
    obtain ⟨-, rfl⟩ := Db.updateSubscription_ok_iff.mp updates
    obtain ⟨-, free, rfl⟩ := Db.createOrder_ok_iff.mp orders
    cases same
    simp only [Table.modify_add]
    exact .created _ replaced planned room unused free
  cases found : findDuplicateCheckout db now userId dto.planId with
  | none =>
    simp only [found, bind_eq_ok_iff, Pure.pure, Except.pure, Except.ok.injEq] at checksOut
    exact opens db (.inl rfl) checksOut
  | some duplicate =>
    obtain ⟨id, duplicate⟩ := duplicate
    simp only [found] at checksOut
    split at checksOut
    · cases checksOut
      exact .reused id
    · simp only [bind_eq_ok_iff, Pure.pure, Except.pure, Except.ok.injEq] at checksOut
      exact opens _ (.inr ⟨id, duplicate, found, rfl⟩) checksOut

/-- A renewal charge leaves everything alone, or opens one order where none is open. -/
theorem createOfflineRenewalCharge_ok {graceDays : Option Int} {answer : Option OrderId}
    (charges : createOfflineRenewalCharge db now subscriptionId fresh graceDays =
      .ok (after, answer)) :
    (after = db ∧ answer = none) ∨
      (db.orders.find? fun _ o => o.subscriptionId == some subscriptionId
        && o.kind == .planRenewal && o.status == .pending && o.expiresAt.any (· > now)) = none ∧
      ∃ s method, db.subscriptions.get? subscriptionId = some s ∧ s.paymentMethod = some method ∧
        answer = some fresh.id ∧ ∃ unused : db.orders.get? fresh.id = none, after = { db with
          orders := db.orders.add fresh.id (newRenewalOrder subscriptionId s fresh.externalReference
            method (clampOfflineExpiry now method
              (s.currentPeriodEndsAt.getD now + graceDays.getD 3 * Calendar.dayMs))) unused } := by
  unfold createOfflineRenewalCharge at charges
  cases stored : db.subscriptions.get? subscriptionId with
  | none =>
    simp only [stored] at charges
    cases charges
    exact .inl ⟨rfl, rfl⟩
  | some s =>
    cases chosen : s.paymentMethod with
    | none =>
      simp only [stored, chosen] at charges
      cases charges
      exact .inl ⟨rfl, rfl⟩
    | some method =>
      simp only [stored, chosen] at charges
      split at charges
      · cases charges
        exact .inl ⟨rfl, rfl⟩
      split at charges
      · cases charges
        exact .inl ⟨rfl, rfl⟩
      · rename_i free
        simp only [bind_eq_ok_iff, Db.createOrder_ok_iff] at charges
        obtain ⟨_, ⟨-, unused, rfl⟩, charges⟩ := charges
        split at charges
        · cases charges
          exact .inr ⟨Option.not_isSome_iff_eq_none.mp free, s, method, rfl, chosen, rfl, unused, rfl⟩
        · cases charges

theorem setExternalSubscriptionId_ok {id : SubscriptionId} {externalId : String}
    (sets : setExternalSubscriptionId db id externalId = .ok after) :
    after = { db with
      subscriptions := db.subscriptions.modify id
        fun s => { s with externalSubscriptionId := some externalId } } := by
  unfold setExternalSubscriptionId at sets
  split at sets
  · cases sets
  · exact (Db.updateSubscription_ok_iff.mp sets).2

theorem authorizeCard_ok {orderId : OrderId} {preapprovalId initPoint : String}
    (authorizes : authorizeCard db orderId subscriptionId preapprovalId initPoint = .ok after) :
    after = { db with
      subscriptions := db.subscriptions.modify subscriptionId
        fun s => { s with externalSubscriptionId := some preapprovalId }
      orders := db.orders.modify orderId (·.authorizedAt preapprovalId initPoint) } := by
  obtain ⟨_, sets, updates⟩ := bind_eq_ok_iff.mp authorizes
  obtain rfl := setExternalSubscriptionId_ok sets
  exact (Db.updateOrder_ok_iff.mp updates).2

end PxHost
