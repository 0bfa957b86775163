import PxHost.System.OrderLaws

/-! What a transaction can do to a subscription, said once for all of them. -/

namespace PxHost

open Store Fallible

def Tx.activates : Tx → Option SubscriptionId
  | .applyPaymentOutcome _ id .paymentConfirmed _ _ _ => some id
  | .updateStatusAsAdmin _ id .active _ _ => some id
  | _ => none

/-- The subscription a transaction may cancel or expire. -/
def Tx.closes (db : Db) : Tx → Option SubscriptionId
  | .cancelForUser _ _ id _ => some id
  | .updateStatusAsAdmin _ id status _ _ => if status.isAlive then none else some id
  | .expireStaleOrder _ stale => if stale.kind = .planInitial then stale.subscriptionId else none
  | .finishCancellation _ ended => some ended.id
  | .preapprovalEvent _ externalId gateway provider =>
    cancelledPreapproval db externalId gateway provider
  | .createCheckoutOrder now user dto _ _ _ =>
    (findDuplicateCheckout db now user dto.planId).bind (·.2.subscriptionId)
  | _ => none

def Tx.halts : Tx → Option SubscriptionId
  | .applyPaymentOutcome _ id .paymentRefunded _ _ _
  | .applyPaymentOutcome _ id .paymentChargeback _ _ _ => some id
  | .updateStatusAsAdmin _ id .suspended _ _ => some id
  | .suspendOverdue _ _ id => some id
  | _ => none

/-- The subscription a checkout cancels behind the back of its history. -/
def Tx.replaces (db : Db) : Tx → Option SubscriptionId
  | .createCheckoutOrder now user dto .. => do
    let (_, duplicate) ← findDuplicateCheckout db now user dto.planId
    if duplicate.paymentMethod = some dto.paymentMethod ∧ duplicate.provider = dto.provider then
      none
    else duplicate.subscriptionId
  | _ => none

/-- The time a transaction goes by, if it looks at the clock at all. -/
def Tx.time : Tx → Option Time
  | .applyPaymentOutcome now .. | .preapprovalEvent now .. | .markEvent now .. | .createForUser now ..
  | .createCheckoutOrder now .. | .createOfflineRenewalCharge now .. | .cancelForUser now ..
  | .updateStatusAsAdmin now .. | .expireStaleOrder now .. | .suspendOverdue now ..
  | .finishCancellation now .. | .createOnNode now .. | .suspend now ..
  | .reportInstallResult now .. | .initiateTransfer now .. | .failTransfer now ..
  | .handleResult now .. | .applyToServers now .. => some now
  | _ => none

/-- A confirmed payment of this order, if it is a first order, starts a period of its own. -/
def Order.startsPeriod (o : Order) (payment : GatewayPayment) : Bool :=
  o.kind != .planRenewal && o.status != .paid && o.status != .refunded && o.status != .cancelled
    && payment.amountCents == some o.amountCents

def resolvedOrder (db : Db) (id : SubscriptionId) (payment : GatewayPayment)
    (provider : PaymentProviderName) (fresh : FreshOrder) : Option (OrderId × Order) := do
  let s ← db.subscriptions.get? id
  let (_, found) ← (findOrCreateOrderForPayment db id s payment provider fresh).toOption
  found

variable {provider : PaymentProviderName} {fresh : FreshOrder} {payment : GatewayPayment}

theorem resolvedOrder_eq_some_iff {db : Db} {id : SubscriptionId} {found : OrderId × Order} :
    resolvedOrder db id payment provider fresh = some found ↔
      ∃ s mid, db.subscriptions.get? id = some s ∧
        findOrCreateOrderForPayment db id s payment provider fresh = .ok (mid, some found) := by
  -- An error and a charge without an order are both read as nothing.
  simp only [resolvedOrder, Option.bind_eq_bind, Option.bind_eq_some_iff]
  constructor
  · rintro ⟨s, stored, ⟨mid, located⟩, resolves, rfl⟩
    refine ⟨s, mid, stored, ?_⟩
    cases answered : findOrCreateOrderForPayment db id s payment provider fresh with
    | error e => simp [answered, Except.toOption] at resolves
    | ok result => simpa [answered, Except.toOption] using resolves
  · rintro ⟨s, mid, stored, resolves⟩
    exact ⟨s, stored, (mid, some found), by rw [resolves]; rfl, rfl⟩

/-- The subscription whose period a transaction counts anew, and the instant it counts from. -/
def Tx.restarts (db : Db) : Tx → Option (Time × SubscriptionId)
  | .applyPaymentOutcome now id .paymentConfirmed payment provider fresh =>
    ((resolvedOrder db id payment provider fresh).filter (·.2.startsPeriod payment)).map
      fun _ => (now, id)
  | .updateStatusAsAdmin now id .active _ _ => some (now, id)
  | _ => none

/-- The subscription whose period a transaction sets to the date a provider reports. -/
def Tx.syncs (db : Db) : Tx → Option (SubscriptionId × Time)
  | .preapprovalEvent _ externalId gateway provider => syncedPeriod db externalId gateway provider
  | _ => none

/-- The ways one transaction leaves a subscription. -/
inductive SubscriptionMove (db : Db) (tx : Tx) (id : SubscriptionId) (s s' : Subscription) :
    Prop where
  | kept (holder : SameHolder s s') (status : s'.status = s.status)
  | opened (holder : SameHolder s s') (asked : tx.activates = some id)
      (legal : canTransition s.status .active) (status : s'.status = .active)
  | lapsed (holder : SameHolder s s') (legal : canTransition s.status s'.status)
      (status : s'.status = .pastDue ∨ s'.status = .suspended)
      (asked : s'.status = .suspended → tx.halts = some id)
  | closed (holder : SameHolder s s') (asked : tx.closes db = some id)
      (status : s'.status = .cancelled ∨ s'.status = .expired)
  | attached {now : Time} {dto : CreateOnNodeInput} {node : NodeId}
      {context : Option TemplateContext} {fresh : FreshServer}
      (called : tx = .createOnNode now dto node context fresh)
      (asked : dto.attachSubscriptionId = some id) (waiting : s.serverId = none)
      (row : s' = { s with serverId := some fresh.id })
  | detached {server : ServerId} (called : tx = .removeServer server)
      (held : s.serverId = some server) (row : s' = { s with serverId := none })

/-- A subscription is born unpaid and without a server. -/
structure NewSubscription (s : Subscription) : Prop where
  status : s.status = .pending
  serverId : s.serverId = none

abbrev SubscriptionsEvolve (tx : Tx) (db after : Db) : Prop :=
  Table.Evolves (SubscriptionMove db tx) (fun _ => NewSubscription) db.subscriptions
    after.subscriptions

/-- The ways one transaction leaves the end of the paid period. -/
inductive PeriodMove (db : Db) (tx : Tx) (id : SubscriptionId) (s : Subscription) :
    Option Time → Prop where
  | kept : PeriodMove db tx id s s.currentPeriodEndsAt
  | extended (now : Time) :
    PeriodMove db tx id s (some (nextPeriodEnd (renewalAnchor now s) s.billingPeriod))
  | restarted {now : Time} (asked : tx.restarts db = some (now, id))
      (legal : canTransition s.status .active) :
    PeriodMove db tx id s (some (nextPeriodEnd now s.billingPeriod))
  | synced {due : Time} (asked : tx.syncs db = some (id, due)) : PeriodMove db tx id s (some due)

/-- A subscription keeps the price and the period it was sold with. -/
structure TermsMove (db : Db) (tx : Tx) (id : SubscriptionId) (s s' : Subscription) : Prop where
  priceCents : s'.priceCents = s.priceCents
  billingPeriod : s'.billingPeriod = s.billingPeriod
  period : PeriodMove db tx id s s'.currentPeriodEndsAt

/-- The terms of all subscriptions after a transaction; a new one is not paid for yet. -/
abbrev TermsEvolve (tx : Tx) (db after : Db) : Prop :=
  Table.Evolves (TermsMove db tx) (fun _ s => s.currentPeriodEndsAt = none) db.subscriptions
    after.subscriptions

/-- What is told of a subscription: nothing if its status is kept, else one legal change. -/
inductive Told (tx : Tx) (id : SubscriptionId) (source target : SubscriptionStatus)
    (events : List SubscriptionEvent) : Prop where
  | kept (same : target = source) (nothing : events = [])
  | changed {event : SubscriptionEvent} (one : events = [event]) (own : event.subscriptionId = id)
      (left : event.fromStatus = some source) (reached : event.toStatus = target)
      (legal : canTransition source target) (time : tx.time = some event.createdAt)

/-- Everything a transaction can write to the subscriptions and to their events. -/
inductive Written (db : Db) (tx : Tx) (rows : Table SubscriptionId Subscription)
    (history : List SubscriptionEvent) : Prop where
  | nothing (rows : rows = db.subscriptions) (history : history = db.subscriptionEvents)
  | row {id : SubscriptionId} {s : Subscription} {f : Subscription → Subscription}
      {events : List SubscriptionEvent} (stored : db.subscriptions.get? id = some s)
      (rows : rows = db.subscriptions.modify id f) (history : history = db.subscriptionEvents ++ events)
      (move : SubscriptionMove db tx id s (f s)) (terms : TermsMove db tx id s (f s))
      (told : Told tx id s.status (f s).status events)
  | detached {server : ServerId} (called : tx = .removeServer server)
      (rows : rows = (db.removeServer server).subscriptions)
      (history : history = db.subscriptionEvents)
  | born {base : Table SubscriptionId Subscription} {id : SubscriptionId} {s : Subscription}
      {event : SubscriptionEvent}
      (cleaned : base = db.subscriptions ∨ ∃ old, tx.replaces db = some old ∧
        base = db.subscriptions.modify old fun s => { s with status := .cancelled })
      (fresh : base.get? id = none) (rows : rows = base.add id s fresh) (new : NewSubscription s)
      (unpaid : s.currentPeriodEndsAt = none)
      (history : history = db.subscriptionEvents ++ [event]) (own : event.subscriptionId = id)
      (first : event.fromStatus = none) (pending : event.toStatus = .pending)
      (time : tx.time = some event.createdAt)

variable {db base after : Db} {now : Time} {tx : Tx} {id : SubscriptionId} {s s' : Subscription}
  {f : Subscription → Subscription}

theorem TermsMove.of_same (same : SameTerms s s') : TermsMove db tx id s s' :=
  ⟨same.priceCents, same.billingPeriod, same.currentPeriodEndsAt ▸ .kept⟩

theorem renewed_terms : TermsMove db tx id s (s.renewed now) := by
  unfold Subscription.renewed
  split
  · -- The restart that goes with leaving `past_due` is overwritten in the same transaction.
    exact ⟨rfl, rfl, .extended now⟩
  · exact ⟨rfl, rfl, .extended now⟩

section Writes

variable {rows : Table SubscriptionId Subscription} {history : List SubscriptionEvent}

theorem Written.note (modified : rows = db.subscriptions.modify id f)
    (kept : history = db.subscriptionEvents) (holder : ∀ s, SameHolder s (f s))
    (status : ∀ s, (f s).status = s.status) (terms : ∀ s, TermsMove db tx id s (f s)) :
    Written db tx rows history := by
  cases stored : db.subscriptions.get? id with
  | none =>
    refine .nothing ?_ kept
    rw [modified, Table.modify_self]
    simp [stored]
  | some s =>
    exact .row stored modified (by simpa using kept) (.kept (holder s) (status s)) (terms s)
      (.kept (status s) rfl)

variable (same : base.subscriptions = db.subscriptions)
  (told : base.subscriptionEvents = db.subscriptionEvents)
  (stored : db.subscriptions.get? id = some s) {target : SubscriptionStatus}
include same told stored

/-- A status change, where the caller accounts for the statuses it can end in. -/
theorem Written.transition {actor : Option UserId} {reason : Option String}
    (legal : canTransition s.status target) (time : tx.time = some now)
    (opens : target = .active → tx.activates = some id ∧ tx.restarts db = some (now, id))
    (closes : target = .cancelled ∨ target = .expired → tx.closes db = some id)
    (halts : target = .suspended → tx.halts = some id) :
    Written db tx (base.transitioned now id s.status target actor reason).subscriptions
      (base.transitioned now id s.status target actor reason).subscriptionEvents := by
  have holder := SameHolder.transitioned s now target reason
  have status := transitioned_status now target reason s
  have moves : SubscriptionMove db tx id s (s.transitioned now target reason) ∧
      TermsMove db tx id s (s.transitioned now target reason) := by
    cases target with
    | pending => cases held : s.status <;> simp [held, canTransition, allowedTransitions] at legal
    | active =>
      exact ⟨.opened holder (opens rfl).1 legal status, rfl, rfl, .restarted (opens rfl).2 legal⟩
    | pastDue =>
      exact ⟨.lapsed holder (by rwa [status]) (.inl status) (by simp), .of_same ⟨rfl, rfl, rfl⟩⟩
    | suspended =>
      exact ⟨.lapsed holder (by rwa [status]) (.inr status) fun _ => halts rfl,
        .of_same ⟨rfl, rfl, rfl⟩⟩
    | cancelled =>
      exact ⟨.closed holder (closes (.inl rfl)) (.inl status), .of_same ⟨rfl, rfl, rfl⟩⟩
    | expired =>
      exact ⟨.closed holder (closes (.inr rfl)) (.inr status), .of_same ⟨rfl, rfl, rfl⟩⟩
  have history : (base.transitioned now id s.status target actor reason).subscriptionEvents =
      db.subscriptionEvents ++ [⟨id, some s.status, target, actor, reason, now⟩] := by
    rw [Db.transitioned, told]
  exact .row (f := (·.transitioned now target reason)) stored (by rw [Db.transitioned, same]) history
    moves.1 moves.2 (.changed rfl rfl rfl status.symm (by rwa [status]) time)

theorem Written.transitionIfAllowed {reason : String} (time : tx.time = some now)
    (inactive : target ≠ .active)
    (closes : target = .cancelled ∨ target = .expired → tx.closes db = some id)
    (halts : target = .suspended → tx.halts = some id) :
    Written db tx (base.transitionedIfAllowed now id s target reason).subscriptions
      (base.transitionedIfAllowed now id s target reason).subscriptionEvents := by
  unfold Db.transitionedIfAllowed
  split
  · rename_i legal
    exact .transition same told stored legal time (fun active => absurd active inactive) closes halts
  · exact .nothing same told

/-- A confirmed payment can only turn its own subscription active. -/
theorem Restored.written {orderId : OrderId} {order : Order} (time : tx.time = some now)
    (asked : tx.activates = some id)
    (restarts : order.kind ≠ .planRenewal → tx.restarts db = some (now, id))
    (restored : Restored base now id s orderId order after) :
    Written db tx after.subscriptions after.subscriptionEvents := by
  -- Both ways back from a lapse go through the same status change.
  have recovers (first : order.kind ≠ .planRenewal)
      (lapsed : s.status = .pastDue ∨ s.status = .suspended) :
      Written db tx (base.recovered now id s.status orderId).subscriptions
        (base.recovered now id s.status orderId).subscriptionEvents := by
    have legal : canTransition s.status .active := by
      rcases lapsed with held | held <;> rw [held] <;> rfl
    exact .transition same told stored legal time (fun _ => ⟨asked, restarts first⟩) nofun nofun
  cases restored with
  | renewed renewal =>
    have renewed : (base.subscriptions.modify id (·.renewed now)) =
        db.subscriptions.modify id (·.renewed now) := by rw [same]
    by_cases overdue : s.status = .pastDue
    · -- Only here a renewal is a change of status, and it writes the event of one.
      have active : (s.renewed now).status = .active := by simp [overdue]
      have legal : canTransition s.status .active := by
        rw [overdue]
        rfl
      have history : (base.renewed now id s.status none).subscriptionEvents =
          db.subscriptionEvents ++
            [⟨id, some .pastDue, .active, none, some "payment.webhook: renewal", now⟩] := by
        simp [Db.renewed, overdue, told]
      exact .row stored renewed history (.opened (.renewed s now) asked legal active) renewed_terms
        (.changed rfl rfl (by rw [overdue]) active.symm (by rwa [active]) time)
    · have kept : (s.renewed now).status = s.status := by simp [overdue]
      exact .row stored renewed (by simp [Db.record, Db.renewed, overdue, told])
        (.kept (.renewed s now) kept) renewed_terms (.kept kept rfl)
  | activated first pending =>
    have legal : canTransition s.status .active := by
      rw [pending]
      rfl
    exact .row (f := (·.activated now)) stored (by rw [same]) (by rw [told])
      (.opened ⟨rfl, rfl, rfl⟩ asked legal rfl) ⟨rfl, rfl, .restarted (restarts first) legal⟩
      (.changed rfl rfl (by rw [pending]) rfl legal time)
  | recovered first lapsed => exact recovers first (lapsed.imp_right And.left)
  | resumed serverId first lapsed server resumes =>
    -- Lifting the suspension of the server afterwards touches no subscription.
    have lifted := (unsuspend_frame resumes).1
    have back := recovers first (.inr lapsed)
    rw [← lifted.subscriptions, ← lifted.subscriptionEvents] at back
    split <;> exact back
  | untouched => exact .nothing same told

end Writes

theorem Restored.status {orderId : OrderId} {order : Order}
    (stored : base.subscriptions.get? id = some s)
    (restored : Restored base now id s orderId order after) :
    (after.subscriptions.get? id).map (·.status) = some (restoredStatus order.kind s.status) := by
  cases restored with
  | renewed renewal => simp [Db.record, Db.renewed, stored, restoredStatus, renewal]
  | activated first pending =>
    simp [stored, Subscription.activated, restoredStatus, first, pending, SubscriptionStatus.isAlive]
  | recovered first lapsed =>
    have alive : s.status.isAlive := by
      rcases lapsed with held | ⟨held, -⟩ <;> rw [held] <;> rfl
    simp [Db.recovered, Db.record, Db.transitioned, stored, restoredStatus, first, alive]
  | resumed serverId first held server resumes =>
    have rows := (unsuspend_frame resumes).1.subscriptions
    have alive : s.status.isAlive := by
      rw [held]
      rfl
    split <;> simp [Db.record, rows, Db.recovered, Db.transitioned, stored, restoredStatus, first, alive]
  | untouched first other current running =>
    -- Of the statuses left over, only `active` is alive, and it stays what it is.
    cases held : s.status <;> simp_all [restoredStatus, SubscriptionStatus.isAlive]

/-- Settling a payment touches the subscription it was matched to only. -/
theorem applyPaymentOutcome_written {event : InternalPaymentEvent} {answer : Option OrderId}
    (applies : applyPaymentOutcome db now id event payment provider fresh = .ok (after, answer)) :
    Written db (.applyPaymentOutcome now id event payment provider fresh) after.subscriptions
      after.subscriptionEvents := by
  rcases applyPaymentOutcome_resolves applies with ⟨rfl, -⟩ | ⟨s, mid, orderId, order, stored,
    resolves, settled⟩
  · exact .nothing rfl rfl
  -- Resolving the payment may open an order, but touches no subscription.
  have opened : mid.subscriptions = db.subscriptions ∧
      mid.subscriptionEvents = db.subscriptionEvents := by
    cases resolved_of_found resolves <;> exact ⟨rfl, rfl⟩
  obtain ⟨same, told⟩ := opened
  cases settled with
  | absorbed | repeated | noted | mismatched | unmoved | cancelled => exact .nothing same told
  | confirmed unsettled confirmed amount restored =>
    subst confirmed
    refine restored.written (by exact same) (by exact told) stored rfl rfl fun first => ?_
    -- The order is open and of the right amount, so it starts a period unless it is a renewal.
    obtain ⟨unpaid, unrefunded, uncancelled⟩ := unsettled
    have located : resolvedOrder db id payment provider fresh = some (orderId, order) :=
      resolvedOrder_eq_some_iff.mpr ⟨s, mid, stored, resolves⟩
    simp [Tx.restarts, located, Order.startsPeriod, first, unpaid, unrefunded, uncancelled, amount]
  | refunded unsettled returned reason stopped =>
    rw [stopped.frame.1.subscriptions, stopped.frame.1.subscriptionEvents]
    refine .transitionIfAllowed (by exact same) (by exact told) stored rfl nofun (by simp) fun _ => ?_
    rcases returned with rfl | rfl <;> rfl
  | rejected unsettled failed =>
    unfold Db.rejected
    dsimp only
    split
    · exact .transitionIfAllowed (by exact same) (by exact told) stored rfl nofun (by simp) nofun
    · exact .nothing same told

theorem processPreapprovalEvent_written {externalId : String} {gateway : GatewaySubscription}
    (processes : processPreapprovalEvent db now externalId gateway provider = .ok after) :
    Written db (.preapprovalEvent now externalId gateway provider) after.subscriptions
      after.subscriptionEvents := by
  -- What the event writes on the row comes first, a change of status may follow.
  obtain ⟨id, g, keeps, moves⟩ := processPreapprovalEvent_moves processes
  have terms (s : Subscription) :
      TermsMove db (.preapprovalEvent now externalId gateway provider) id s (g s) := by
    obtain ⟨price, period, paid | ⟨due, asked, paid⟩⟩ := (keeps s).terms
    · exact .of_same ⟨price, period, paid⟩
    · exact ⟨price, period, paid ▸ .synced asked⟩
  have noted : Written db (.preapprovalEvent now externalId gateway provider)
      (db.annotated id g).subscriptions db.subscriptionEvents :=
    .note rfl rfl (fun s => (keeps s).holder) (fun s => (keeps s).status) terms
  rcases moves with rfl | ⟨_, target, reason, stored, lapses, rfl⟩
  · exact noted
  unfold Db.transitionedIfAllowed
  split
  · rename_i legal
    obtain ⟨s, original, rfl⟩ : ∃ s, db.subscriptions.get? id = some s ∧ g s = _ := by
      simpa [Db.annotated] using stored
    have holder := (keeps s).holder.trans (.transitioned (g s) now target (some reason))
    rw [(keeps s).status] at legal ⊢
    refine .row (f := fun s => (g s).transitioned now target (some reason)) original
      (Table.modify_modify ..) rfl ?_ ?_ (.changed rfl rfl rfl (by simp) (by simpa using legal) rfl)
    · rcases lapses with rfl | ⟨rfl, cancelled⟩
      · exact .lapsed holder (by simpa using legal) (.inl (by simp)) (by simp)
      · exact .closed holder cancelled (.inl (by simp))
    · -- Moving on adds nothing to what was written on the row.
      obtain ⟨price, period, paid⟩ := terms s
      rcases lapses with rfl | ⟨rfl, -⟩ <;> exact ⟨price, period, paid⟩
  · exact noted

variable {dto : CreateCheckoutDto} {subscription : SubscriptionId} {ttlMinutes : Option Int}
  {result : CheckoutResult} {user : UserId}

theorem createCheckoutOrder_resumes {found : OrderId × Order}
    (unfinished : findDuplicateCheckout db now user dto.planId = some found)
    (same : found.2.paymentMethod = some dto.paymentMethod ∧ found.2.provider = dto.provider)
    (checksOut : createCheckoutOrder db now user dto subscription fresh ttlMinutes =
      .ok (after, result)) :
    after = db := by
  simp only [createCheckoutOrder, bind_eq_ok_iff, unfinished, if_pos same] at checksOut
  obtain ⟨_, -, checksOut⟩ := checksOut
  cases checksOut
  rfl

/-- A checkout cancels at most the subscription of the checkout it replaces, and opens one. -/
theorem createCheckoutOrder_written
    (checksOut : createCheckoutOrder db now user dto subscription fresh ttlMinutes =
      .ok (after, result)) :
    Written db (.createCheckoutOrder now user dto subscription fresh ttlMinutes)
      after.subscriptions after.subscriptionEvents := by
  by_cases resumed : ∃ found ∈ findDuplicateCheckout db now user dto.planId,
      found.2.paymentMethod = some dto.paymentMethod ∧ found.2.provider = dto.provider
  · obtain ⟨found, unfinished, same⟩ := resumed
    obtain rfl := createCheckoutOrder_resumes unfinished same checksOut
    exact .nothing rfl rfl
  cases createCheckoutOrder_ok checksOut with
  | reused => exact .nothing rfl rfl
  | @created base _ _ ttl replaced planned room newSubscription newOrder =>
    have cleaned : base.subscriptionEvents = db.subscriptionEvents ∧
        (base.subscriptions = db.subscriptions ∨ ∃ old,
          (Tx.createCheckoutOrder now user dto subscription fresh ttlMinutes).replaces db =
            some old ∧
          base.subscriptions = db.subscriptions.modify old fun s => { s with status := .cancelled }) := by
      rcases replaced with rfl | ⟨order, duplicate, unfinished, rfl⟩
      · exact ⟨rfl, .inl rfl⟩
      have other : ¬ (duplicate.paymentMethod = some dto.paymentMethod ∧
          duplicate.provider = dto.provider) :=
        fun same => resumed ⟨(order, duplicate), unfinished, same⟩
      unfold cancelSupersededCheckout
      dsimp only
      split
      · exact ⟨rfl, .inl rfl⟩
      · rename_i old held
        exact ⟨rfl, .inr ⟨old, by simp [Tx.replaces, unfinished, if_neg other, held], rfl⟩⟩
    exact .born cleaned.2 newSubscription rfl ⟨rfl, rfl⟩ rfl (by rw [cleaned.1]) rfl rfl rfl rfl

/-- Every transaction writes to the subscriptions and their events in one of the listed ways. -/
theorem exec_written (executed : exec db tx = .ok after) :
    Written db tx after.subscriptions after.subscriptionEvents := by
  cases tx with
  -- Payments and preapprovals are the only ones that can pay for anything.
  | applyPaymentOutcome now subscription event payment provider fresh =>
    obtain ⟨_, applies⟩ := map_fst_eq_ok_iff.mp executed
    exact applyPaymentOutcome_written applies
  | preapprovalEvent now externalId gateway provider =>
    exact processPreapprovalEvent_written executed
  | createForUser now user plan id =>
    obtain ⟨_, _, -, creates⟩ := createForUser_ok executed
    obtain ⟨-, fresh, rfl⟩ := createPendingSubscription_ok creates
    exact .born (.inl rfl) fresh rfl ⟨rfl, rfl⟩ rfl rfl rfl rfl rfl rfl
  | createCheckoutOrder now user dto subscription fresh ttlMinutes =>
    obtain ⟨_, checksOut⟩ := map_fst_eq_ok_iff.mp executed
    exact createCheckoutOrder_written checksOut
  | authorizeCard order subscription preapproval initPoint =>
    obtain rfl := authorizeCard_ok executed
    exact .note (f := fun s => { s with externalSubscriptionId := some preapproval }) rfl rfl
      (fun _ => ⟨rfl, rfl, rfl⟩) (fun _ => rfl) fun _ => .of_same ⟨rfl, rfl, rfl⟩
  | cancelForUser now user id reason =>
    obtain ⟨s, stored, legal, rfl⟩ := cancelForUser_ok executed
    exact .transition rfl rfl stored legal rfl nofun (fun _ => rfl) nofun
  | cancelAtPeriodEnd id reason =>
    obtain ⟨-, rfl⟩ := Db.updateSubscription_ok_iff.mp executed
    exact .note (f := fun s => { s with cancelAtPeriodEnd := true, cancelReason := reason }) rfl rfl
      (fun _ => ⟨rfl, rfl, rfl⟩) (fun _ => rfl) fun _ => .of_same ⟨rfl, rfl, rfl⟩
  | updateStatusAsAdmin now id status reason actor =>
    -- An administrator who sets the status to `active` restarts the period as a payment would.
    obtain ⟨s, stored, legal, rfl⟩ := applyTransition_ok_iff.mp executed
    refine .transition rfl rfl stored legal rfl ?_ ?_ ?_
    · rintro rfl
      exact ⟨rfl, rfl⟩
    · rintro (rfl | rfl) <;> rfl
    · rintro rfl
      rfl
  | expireStaleOrder now stale =>
    rcases expireStaleOrder_ok executed with rfl | ⟨id, s, reason, held, stored, rfl⟩
    · exact .nothing rfl rfl
    · -- Only the expiry of a first order closes its subscription.
      have same : (db.expired stale.id).subscriptions = db.subscriptions := rfl
      refine .transitionIfAllowed same rfl stored rfl ?_ ?_ ?_ <;> unfold StaleOrder.target <;>
        by_cases first : stale.kind = .planInitial <;> simp [first, Tx.closes, held]
  | suspendOverdue now graceDays id =>
    obtain ⟨s, stored, legal, rfl⟩ := applyTransition_ok_iff.mp executed
    exact .transition rfl rfl stored legal rfl nofun (by simp) fun _ => rfl
  | finishCancellation now ended =>
    obtain ⟨s, stored, legal, rfl⟩ := applyTransition_ok_iff.mp executed
    exact .transition rfl rfl stored legal rfl nofun (fun _ => rfl) nofun
  | createOnNode now dto node context fresh =>
    obtain ⟨plan, created⟩ := createOnNode_ok executed
    obtain ⟨server, unused, allocations, subscriptions, -, attached, rfl⟩ := created.rows
    cases attached with
    | without => exact .nothing rfl rfl
    | attached asked stored own waiting =>
      exact .row (f := fun s => { s with serverId := some fresh.id }) stored rfl (by simp)
        (.attached rfl asked waiting rfl) (.of_same ⟨rfl, rfl, rfl⟩) (.kept rfl rfl)
  | removeServer id =>
    obtain ⟨-, rfl⟩ := removeServer_ok executed
    exact .detached rfl rfl rfl
  -- The rest writes to no subscription.
  | _ =>
    have step := exec_ledger executed
    exact .nothing (step.subscriptions rfl) (step.subscriptionEvents rfl)

theorem closes_of_replaces (replaced : tx.replaces db = some id) : tx.closes db = some id := by
  cases tx with
  | createCheckoutOrder now user dto subscription fresh ttlMinutes =>
    simp only [Tx.replaces, Option.bind_eq_bind, Option.bind_eq_some_iff] at replaced
    obtain ⟨found, unfinished, method⟩ := replaced
    split at method
    · cases method
    · simpa [Tx.closes, unfinished] using method
  | _ => cases replaced

/-- Every write to a subscription is one of the moves, and new rows start unpaid. -/
theorem exec_rows (executed : exec db tx = .ok after) :
    Table.Evolves (fun id s s' => SubscriptionMove db tx id s s' ∧ TermsMove db tx id s s')
      (fun _ s => NewSubscription s ∧ s.currentPeriodEndsAt = none) db.subscriptions
      after.subscriptions := by
  have still (id : SubscriptionId) (s : Subscription) :
      SubscriptionMove db tx id s s ∧ TermsMove db tx id s s :=
    ⟨.kept (.refl s) rfl, .of_same (.refl s)⟩
  cases exec_written executed with
  | nothing rows =>
    rw [rows]
    exact .refl still _
  | @row id s f _ stored rows _ move terms =>
    rw [rows]
    refine .modify still fun s' found => ?_
    obtain rfl : s = s' := by simpa [stored] using found
    exact ⟨move, terms⟩
  | detached called rows =>
    simp only [rows, Db.removeServer]
    refine .updateWhere still fun _ s _ held => ?_
    exact ⟨.detached called (by simpa using held) rfl, .of_same ⟨rfl, rfl, rfl⟩⟩
  | @born base id s _ cleaned fresh rows new unpaid =>
    have cleared : Table.Evolves
        (fun id s s' => SubscriptionMove db tx id s s' ∧ TermsMove db tx id s s')
        (fun _ s => NewSubscription s ∧ s.currentPeriodEndsAt = none) db.subscriptions base := by
      rcases cleaned with rfl | ⟨old, replaced, rfl⟩
      · exact .refl still _
      · refine .modify still fun s _ => ⟨.closed ⟨rfl, rfl, rfl⟩ (closes_of_replaces replaced)
          (.inl rfl), .of_same ⟨rfl, rfl, rfl⟩⟩
    rw [rows]
    -- The new subscription is added to what the cleaning left.
    refine cleared.trans (.add fresh (fun _ _ => rfl) ⟨new, unpaid⟩) ?_ ?_
    · rintro id s s' s'' move rfl
      exact move
    · rintro id s s' new rfl
      exact new

theorem exec_subscriptions (executed : exec db tx = .ok after) : SubscriptionsEvolve tx db after :=
  (exec_rows executed).mono (fun _ _ _ => And.left) fun _ _ => And.left

theorem exec_terms (executed : exec db tx = .ok after) : TermsEvolve tx db after :=
  (exec_rows executed).mono (fun _ _ _ => And.right) fun _ _ => And.right

end PxHost
