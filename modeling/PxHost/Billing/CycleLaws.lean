import PxHost.Billing.Cycle
import PxHost.Payments.OrdersLaws
import PxHost.Payments.WebhookLaws

/-! What the daily job and the preapproval events did when they succeeded. -/

namespace PxHost

open Store Fallible

variable {db after : Db} {now : Time}

/-- An order overwritten by the job, before its subscription follows. -/
def Db.expired (db : Db) (orderId : OrderId) : Db :=
  { db with orders := db.orders.modify orderId fun o => { o with status := .expired } }

def StaleOrder.target (stale : StaleOrder) : SubscriptionStatus :=
  if stale.kind = .planInitial then .cancelled else .pastDue

/-- An order that expires takes its subscription along only where that is allowed. -/
theorem expireStaleOrder_ok {stale : StaleOrder}
    (expires : expireStaleOrder db now stale = .ok after) :
    after = db.expired stale.id ∨ ∃ subscriptionId s reason,
      stale.subscriptionId = some subscriptionId ∧
      db.subscriptions.get? subscriptionId = some s ∧
      after = (db.expired stale.id).transitionedIfAllowed now subscriptionId s stale.target
        reason := by
  simp only [expireStaleOrder, bind_eq_ok_iff, Db.updateOrder_ok_iff] at expires
  obtain ⟨_, ⟨-, rfl⟩, expires⟩ := expires
  cases listed : stale.subscriptionId with
  | none =>
    simp only [listed] at expires
    cases expires
    exact .inl rfl
  | some subscriptionId =>
    cases stored : db.subscriptions.get? subscriptionId with
    | none =>
      simp only [listed, stored] at expires
      cases expires
      exact .inl rfl
    | some s =>
      simp only [listed, stored] at expires
      split at expires
      · rename_i first
        rw [transitionIfAllowed_ok_iff (by exact stored)] at expires
        exact .inr ⟨subscriptionId, s, _, rfl, stored,
          by simpa [StaleOrder.target, first, Db.expired] using expires⟩
      · rename_i renewal
        rw [transitionIfAllowed_ok_iff (by exact stored)] at expires
        exact .inr ⟨subscriptionId, s, _, rfl, stored,
          by simpa [StaleOrder.target, renewal, Db.expired] using expires⟩

/-- What a subscription was sold for and how long it is paid. -/
structure SameTerms (s s' : Subscription) : Prop where
  priceCents : s'.priceCents = s.priceCents
  billingPeriod : s'.billingPeriod = s.billingPeriod
  currentPeriodEndsAt : s'.currentPeriodEndsAt = s.currentPeriodEndsAt

theorem SameTerms.refl (s : Subscription) : SameTerms s s := ⟨rfl, rfl, rfl⟩

theorem findSubscriptionForGateway_ok {externalId : String} {gateway : GatewaySubscription}
    {provider : PaymentProviderName} {found : Option SubscriptionId}
    (finds : findSubscriptionForGateway db externalId gateway provider = .ok (after, found)) :
    (found = none ∧ after = db) ∨ ∃ id g, found = some id ∧
      (∀ s, SameHolder s (g s) ∧ (g s).status = s.status ∧ SameTerms s (g s)) ∧
      after = { db with subscriptions := db.subscriptions.modify id g } := by
  simp only [findSubscriptionForGateway] at finds
  split at finds
  · rename_i id _
    cases finds
    refine .inr ⟨id, fun s => s, rfl, fun s => ⟨.refl s, rfl, .refl s⟩, ?_⟩
    rw [Table.modify_self fun _ _ => rfl]
  · cases finds
    exact .inl ⟨rfl, rfl⟩
  · rename_i id _ _
    simp only [bind_eq_ok_iff, Pure.pure, Except.pure, Except.ok.injEq, Prod.mk.injEq] at finds
    obtain ⟨_, sets, rfl, rfl⟩ := finds
    exact .inr ⟨id, fun s => { s with externalSubscriptionId := some externalId }, rfl,
      fun s => ⟨⟨rfl, rfl, rfl⟩, rfl, ⟨rfl, rfl, rfl⟩⟩, setExternalSubscriptionId_ok sets⟩

def cancelledPreapproval (db : Db) (externalId : String) (gateway : GatewaySubscription)
    (provider : PaymentProviderName) : Option SubscriptionId :=
  match classifySubscription provider gateway,
      findSubscriptionForGateway db externalId gateway provider with
  | .subscriptionCanceled, .ok (_, found) => found
  | _, _ => none

/-- A preapproval event keeps the holder and never lets a subscription become active. -/
structure PreapprovalMove (cancels : Prop) (s s' : Subscription) : Prop
    extends SameHolder s s' where
  status : s'.status = s.status ∨ canTransition s.status s'.status ∧
    (s'.status = .pastDue ∨ s'.status = .cancelled ∧ cancels)

def PreapprovalChange (db : Db) (externalId : String) (gateway : GatewaySubscription)
    (provider : PaymentProviderName) (after : Db) : Prop :=
  ∃ id f events, (∀ s, db.subscriptions.get? id = some s →
      PreapprovalMove (cancelledPreapproval db externalId gateway provider = some id) s (f s)) ∧
    after = { db with
      subscriptions := db.subscriptions.modify id f
      subscriptionEvents := db.subscriptionEvents ++ events }

/-- The row a preapproval event is about, rewritten without a change of status. -/
def Db.annotated (db : Db) (id : SubscriptionId) (g : Subscription → Subscription) : Db :=
  { db with subscriptions := db.subscriptions.modify id g }

variable {externalId : String} {gateway : GatewaySubscription} {provider : PaymentProviderName}

/-- The due date a preapproval event writes on an active subscription, if it writes one. -/
def syncedPeriod (db : Db) (externalId : String) (gateway : GatewaySubscription)
    (provider : PaymentProviderName) : Option (SubscriptionId × Time) :=
  match classifySubscription provider gateway,
      findSubscriptionForGateway db externalId gateway provider, gateway.nextDueDate with
  | .subscriptionSynced, .ok (base, some id), some due =>
    if (base.subscriptions.get? id).any (·.status == .active) then some (id, due) else none
  | _, _, _ => none

/-- The terms of a row after a preapproval event: as they were, or paid until the due date. -/
structure SyncedTerms (db : Db) (externalId : String) (gateway : GatewaySubscription)
    (provider : PaymentProviderName) (id : SubscriptionId) (s s' : Subscription) : Prop where
  priceCents : s'.priceCents = s.priceCents
  billingPeriod : s'.billingPeriod = s.billingPeriod
  period : s'.currentPeriodEndsAt = s.currentPeriodEndsAt ∨ ∃ due,
    syncedPeriod db externalId gateway provider = some (id, due) ∧
      s'.currentPeriodEndsAt = some due

theorem SameTerms.synced {id : SubscriptionId} {s s' : Subscription} (same : SameTerms s s') :
    SyncedTerms db externalId gateway provider id s s' :=
  ⟨same.priceCents, same.billingPeriod, .inl same.currentPeriodEndsAt⟩

/-- A row rewritten by a preapproval event without a change of status. -/
structure Annotated (db : Db) (externalId : String) (gateway : GatewaySubscription)
    (provider : PaymentProviderName) (id : SubscriptionId) (s s' : Subscription) : Prop where
  holder : SameHolder s s'
  status : s'.status = s.status
  terms : SyncedTerms db externalId gateway provider id s s'

/-- A preapproval event writes on one row, and then may move that row along the state machine. -/
theorem processPreapprovalEvent_moves
    (processes : processPreapprovalEvent db now externalId gateway provider = .ok after) :
    ∃ id g, (∀ s, Annotated db externalId gateway provider id s (g s)) ∧
      (after = db.annotated id g ∨ ∃ s target reason,
        (db.annotated id g).subscriptions.get? id = some s ∧
        (target = .pastDue ∨
          target = .cancelled ∧ cancelledPreapproval db externalId gateway provider = some id) ∧
        after = (db.annotated id g).transitionedIfAllowed now id s target reason) := by
  have untouched : ∃ id g, (∀ s, Annotated db externalId gateway provider id s (g s)) ∧
      db = db.annotated id g :=
    ⟨0, fun s => s, fun s => ⟨.refl s, rfl, (SameTerms.refl s).synced⟩, by
      rw [Db.annotated, Table.modify_self fun _ _ => rfl]⟩
  simp only [processPreapprovalEvent] at processes
  split at processes
  · cases processes
    obtain ⟨id, g, keeps, same⟩ := untouched
    exact ⟨id, g, keeps, .inl same⟩
  rename_i heard
  simp only [bind_eq_ok_iff] at processes
  obtain ⟨⟨base, found⟩, finds, processes⟩ := processes
  rcases findSubscriptionForGateway_ok finds with ⟨rfl, rfl⟩ | ⟨id, g, rfl, plain, rfl⟩
  · cases processes
    obtain ⟨id, g, keeps, same⟩ := untouched
    exact ⟨id, g, keeps, .inl same⟩
  -- Remembering the preapproval is all that happens to the row before its event is looked at.
  have keeps (s : Subscription) : Annotated db externalId gateway provider id s (g s) :=
    ⟨(plain s).1, (plain s).2.1, (plain s).2.2.synced⟩
  dsimp only at processes
  split at processes
  case _ s stored =>
    split at processes
    · rename_i cancelled
      rw [transitionIfAllowed_ok_iff (by exact stored)] at processes
      exact ⟨id, g, keeps, .inr ⟨s, _, _, stored,
        .inr ⟨rfl, by simp [cancelledPreapproval, cancelled, finds]⟩, processes⟩⟩
    · rw [transitionIfAllowed_ok_iff (by exact stored)] at processes
      exact ⟨id, g, keeps, .inr ⟨s, _, _, stored, .inl rfl, processes⟩⟩
    · rename_i uncancelled current
      split at processes
      · cases processes
        exact ⟨id, g, keeps, .inl rfl⟩
      · -- The due date is written on the row the preapproval was remembered on.
        rename_i dated
        obtain ⟨-, rfl⟩ := Db.updateSubscription_ok_iff.mp processes
        simp only [not_or, Option.isNone_iff_eq_none, ne_eq, not_not] at dated
        obtain ⟨due, date⟩ := Option.ne_none_iff_exists'.mp dated.1
        have synced : classifySubscription provider gateway = .subscriptionSynced := by
          have only : classifySubscription provider gateway ≠ .subscriptionCanceled →
              classifySubscription provider gateway ≠ .subscriptionPastDue →
                classifySubscription provider gateway = .subscriptionSynced := by simpa using heard
          exact only uncancelled current
        have period : syncedPeriod db externalId gateway provider = some (id, due) := by
          simp [syncedPeriod, synced, finds, date, stored, dated.2]
        refine ⟨id, fun s => { g s with currentPeriodEndsAt := gateway.nextDueDate },
          fun s => ⟨⟨(plain s).1.planId, (plain s).1.serverId, (plain s).1.userId⟩, (plain s).2.1,
            ⟨(plain s).2.2.priceCents, (plain s).2.2.billingPeriod, .inr ⟨due, period, date⟩⟩⟩,
          .inl ?_⟩
        simp only [Db.annotated, Table.modify_modify]
  case _ =>
    cases processes
    exact ⟨id, g, keeps, .inl rfl⟩

theorem processPreapprovalEvent_ok
    (processes : processPreapprovalEvent db now externalId gateway provider = .ok after) :
    PreapprovalChange db externalId gateway provider after := by
  obtain ⟨id, g, keeps, moves⟩ := processPreapprovalEvent_moves processes
  have kept : PreapprovalChange db externalId gateway provider (db.annotated id g) :=
    ⟨id, g, [], fun s _ => ⟨(keeps s).holder, .inl (keeps s).status⟩, by simp [Db.annotated]⟩
  rcases moves with rfl | ⟨s, target, reason, stored, lapses, rfl⟩
  · exact kept
  unfold Db.transitionedIfAllowed
  split
  · -- A status change is one more rewrite of the row the preapproval was remembered on.
    rename_i legal
    refine ⟨id, fun s => (g s).transitioned now target (some reason), _, ?_, by
      rw [Db.transitioned, Db.annotated, Table.modify_modify]⟩
    intro before original
    obtain rfl : g before = s := by simpa [Db.annotated, original] using stored
    rw [(keeps before).status] at legal
    exact ⟨(keeps before).holder.trans (.transitioned ..), .inr (by simpa using ⟨legal, lapses⟩)⟩
  · exact kept

end PxHost
