import PxHost.Capacity.MathLaws
import PxHost.Schema.DatabaseLaws
import PxHost.Subscriptions.Service

/-! What each subscription operation did when it succeeded. -/

namespace PxHost

open Store Fallible

section Columns

variable (now : Time) (target : SubscriptionStatus) (reason : Option String) (s : Subscription)

@[simp] theorem transitioned_status : (s.transitioned now target reason).status = target := by
  cases target <;> rfl

@[simp] theorem transitioned_planId : (s.transitioned now target reason).planId = s.planId := by
  cases target <;> rfl

@[simp] theorem transitioned_userId : (s.transitioned now target reason).userId = s.userId := by
  cases target <;> rfl

@[simp] theorem transitioned_serverId :
    (s.transitioned now target reason).serverId = s.serverId := by
  cases target <;> rfl

end Columns

def Subscription.renewed (now : Time) (s : Subscription) : Subscription :=
  (if s.status = .pastDue then
    s.transitioned now .active (some "payment.webhook: renewal") else s).paidUntil
      (nextPeriodEnd (renewalAnchor now s) s.billingPeriod)

@[simp] theorem renewed_status (now : Time) (s : Subscription) :
    (s.renewed now).status = if s.status = .pastDue then .active else s.status := by
  simp only [Subscription.renewed, Subscription.paidUntil]
  split <;> simp

@[simp] theorem renewed_planId (now : Time) (s : Subscription) :
    (s.renewed now).planId = s.planId := by
  simp only [Subscription.renewed, Subscription.paidUntil]
  split <;> simp

@[simp] theorem renewed_serverId (now : Time) (s : Subscription) :
    (s.renewed now).serverId = s.serverId := by
  simp only [Subscription.renewed, Subscription.paidUntil]
  split <;> simp

@[simp] theorem renewed_userId (now : Time) (s : Subscription) :
    (s.renewed now).userId = s.userId := by
  simp only [Subscription.renewed, Subscription.paidUntil]
  split <;> simp

/-- The columns of a subscription that only its creation, attachment and detachment write. -/
structure SameHolder (s s' : Subscription) : Prop where
  planId : s'.planId = s.planId
  serverId : s'.serverId = s.serverId
  userId : s'.userId = s.userId

theorem SameHolder.refl (s : Subscription) : SameHolder s s := ⟨rfl, rfl, rfl⟩

theorem SameHolder.trans {s s' s'' : Subscription} (first : SameHolder s s')
    (second : SameHolder s' s'') : SameHolder s s'' :=
  ⟨second.planId.trans first.planId, second.serverId.trans first.serverId,
    second.userId.trans first.userId⟩

theorem SameHolder.transitioned (s : Subscription) (now : Time) (target : SubscriptionStatus)
    (reason : Option String) : SameHolder s (s.transitioned now target reason) :=
  ⟨by simp, by simp, by simp⟩

theorem SameHolder.renewed (s : Subscription) (now : Time) : SameHolder s (s.renewed now) :=
  ⟨by simp, by simp, by simp⟩

namespace Db

def transitioned (db : Db) (now : Time) (id : SubscriptionId) (current target : SubscriptionStatus)
    (actorId : Option UserId) (reason : Option String) : Db :=
  { db with
    subscriptions := db.subscriptions.modify id (·.transitioned now target reason)
    subscriptionEvents := db.subscriptionEvents ++
      [⟨id, some current, target, actorId, reason, now⟩] }

/-- The database after a renewal; only the end of an overdue period is a status change. -/
def renewed (db : Db) (now : Time) (id : SubscriptionId) (current : SubscriptionStatus)
    (actorId : Option UserId) : Db :=
  { db with
    subscriptions := db.subscriptions.modify id (·.renewed now)
    subscriptionEvents := db.subscriptionEvents ++
      if current = .pastDue then
        [⟨id, some .pastDue, .active, actorId, some "payment.webhook: renewal", now⟩] else [] }

end Db

variable {db after : Db} {now : Time} {id : SubscriptionId} {planId : PlanId}
  {period : BillingPeriod}

theorem lockAndValidatePlanForSubscription_ok {plan : Plan}
    (valid : lockAndValidatePlanForSubscription db planId = .ok (plan, period)) :
    db.plans.get? planId = some plan := by
  unfold lockAndValidatePlanForSubscription at valid
  split at valid
  · cases valid
  · rename_i found
    split at valid
    · cases valid
    · split at valid
      · cases valid
      · cases valid
        exact found

/-- The row of a subscription that awaits its first payment. -/
def pendingSubscription (userId : UserId) (planId : PlanId) (plan : Plan)
    (period : BillingPeriod) : Subscription :=
  { userId, planId, status := .pending, priceCents := plan.priceCents
    currency := plan.currency, billingPeriod := period }

variable {userId : UserId}

theorem createPendingSubscription_ok {plan : Plan}
    (creates : createPendingSubscription db now id userId planId plan period = .ok after) :
    (∀ max, plan.maxSlots = some max → occupiedSlots db planId < max) ∧
      ∃ fresh : db.subscriptions.get? id = none,
        after = { db with
          subscriptions := db.subscriptions.add id
            (pendingSubscription userId planId plan period) fresh
          subscriptionEvents := db.subscriptionEvents ++
            [⟨id, none, .pending, some userId, none, now⟩] } := by
  unfold createPendingSubscription at creates
  cases known : db.users.get? userId with
  | none => simp [known] at creates
  | some user =>
    simp only [known] at creates
    split at creates
    · cases creates
    · simp only [bind_eq_ok_iff, assertSlots_ok_iff, Db.createSubscription_ok_iff, Pure.pure,
        Except.pure, Except.ok.injEq] at creates
      obtain ⟨_, room, _, ⟨fresh, rfl⟩, rfl⟩ := creates
      exact ⟨room, fresh, rfl⟩

theorem createForUser_ok (creates : createForUser db now userId planId id = .ok after) :
    ∃ plan period, db.plans.get? planId = some plan ∧
      createPendingSubscription db now id userId planId plan period = .ok after := by
  obtain ⟨⟨plan, period⟩, valid, creates⟩ := bind_eq_ok_iff.mp creates
  exact ⟨plan, period, lockAndValidatePlanForSubscription_ok valid, creates⟩

theorem assertTransition_ok_iff {current target : SubscriptionStatus} {u : Unit} :
    assertTransition current target = .ok u ↔ canTransition current target := by
  unfold assertTransition
  split <;> simp_all

variable {actorId : Option UserId} {reason : Option String}

theorem applyTransition_ok_iff {target : SubscriptionStatus} :
    applyTransition db now id target actorId reason = .ok after ↔
      ∃ s, db.subscriptions.get? id = some s ∧ canTransition s.status target ∧
        after = db.transitioned now id s.status target actorId reason := by
  unfold applyTransition
  cases found : db.subscriptions.get? id with
  | none => simp
  | some s =>
    simp only [bind_eq_ok_iff, assertTransition_ok_iff, Db.updateSubscription_ok_iff, found,
      Option.some.injEq, exists_eq_left', Pure.pure, Except.pure, Except.ok.injEq]
    constructor
    · rintro ⟨_, legal, changed, ⟨_, rfl⟩, rfl⟩
      exact ⟨legal, rfl⟩
    · rintro ⟨legal, rfl⟩
      exact ⟨(), legal, _, ⟨⟨s, rfl⟩, rfl⟩, rfl⟩

theorem cancelForUser_ok (cancelled : cancelForUser db now userId id reason = .ok after) :
    ∃ s, db.subscriptions.get? id = some s ∧ canTransition s.status .cancelled ∧
      after = db.transitioned now id s.status .cancelled (some userId) reason := by
  unfold cancelForUser at cancelled
  cases found : db.subscriptions.get? id with
  | none => simp [found] at cancelled
  | some s =>
    simp only [found] at cancelled
    split at cancelled
    · cases cancelled
    · simpa [found] using applyTransition_ok_iff.mp cancelled

/-- A renewal applies to every stored subscription, whatever its status. -/
theorem applyRenewal_ok_iff :
    applyRenewal db now id actorId = .ok after ↔
      ∃ s, db.subscriptions.get? id = some s ∧ after = db.renewed now id s.status actorId := by
  unfold applyRenewal
  cases found : db.subscriptions.get? id with
  | none => simp
  | some s =>
    by_cases overdue : s.status = .pastDue
    · -- The status change comes first, and the period computed before it overwrites its own.
      have legal : canTransition s.status .active := by rw [overdue]; rfl
      have merged : (db.subscriptions.modify id
            (·.transitioned now .active (some "payment.webhook: renewal"))).modify id
              (·.paidUntil (nextPeriodEnd (renewalAnchor now s) s.billingPeriod)) =
          db.subscriptions.modify id (·.renewed now) := by
        rw [Table.modify_modify]
        refine Table.modify_congr ?_
        intro row stored
        obtain rfl : s = row := by simpa [found] using stored
        simp [Subscription.renewed, overdue]
      simp only [if_pos overdue, bind_eq_ok_iff, applyTransition_ok_iff,
        Db.updateSubscription_ok_iff, found, Option.some.injEq, exists_eq_left']
      constructor
      · rintro ⟨_, ⟨-, rfl⟩, -, rfl⟩
        simp [Db.transitioned, Db.renewed, overdue, merged]
      · rintro rfl
        refine ⟨_, ⟨legal, rfl⟩, ?_, ?_⟩
        · simp [Db.transitioned, found]
        · simp [Db.transitioned, Db.renewed, overdue, merged]
    · have merged : db.subscriptions.modify id
            (·.paidUntil (nextPeriodEnd (renewalAnchor now s) s.billingPeriod)) =
          db.subscriptions.modify id (·.renewed now) := by
        refine Table.modify_congr ?_
        intro row stored
        obtain rfl : s = row := by simpa [found] using stored
        simp [Subscription.renewed, overdue]
      simp only [if_neg overdue, ok_bind, Db.updateSubscription_ok_iff, found, Option.some.injEq,
        exists_eq_left', exists_eq', true_and, Db.renewed, List.append_nil, merged]

end PxHost
