import PxHost.System.History
import PxHost.System.Purchases

/-! Checkouts that lapse, and the subscriptions that have started in the meantime. -/

namespace PxHost

open Store Machine

/-- The subscription has been paid for or granted, and has not ended. -/
def SubscriptionStatus.hasStarted : SubscriptionStatus → Bool
  | .active | .pastDue | .suspended => true
  | _ => false

def Db.hasOpenCheckout (db : Db) (id : SubscriptionId) : Prop :=
  ∃ row ∈ db.orders.rows, row.2.subscriptionId = some id ∧ row.2.kind = .planInitial ∧
    row.2.status = .pending

def World.listsCheckout (w : World) (id : SubscriptionId) : Prop :=
  ∃ stale ∈ w.staleOrders, stale.subscriptionId = some id ∧ stale.kind = .planInitial

instance (db : Db) (id : SubscriptionId) : Decidable (db.hasOpenCheckout id) :=
  inferInstanceAs (Decidable (∃ row ∈ db.orders.rows, _))

instance (w : World) (id : SubscriptionId) : Decidable (w.listsCheckout id) :=
  inferInstanceAs (Decidable (∃ stale ∈ w.staleOrders, _))

variable {id : SubscriptionId}

theorem Db.hasOpenCheckout_iff {db : Db} :
    db.hasOpenCheckout id ↔ ∃ orderId o, db.orders.get? orderId = some o ∧
      o.subscriptionId = some id ∧ o.kind = .planInitial ∧ o.status = .pending := by
  simp only [Db.hasOpenCheckout, Table.get?_eq_some_iff, Prod.exists]

def World.mayLapse (w : World) (id : SubscriptionId) : Prop :=
  w.db.hasOpenCheckout id ∨ w.listsCheckout id

instance (w : World) (id : SubscriptionId) : Decidable (w.mayLapse id) :=
  inferInstanceAs (Decidable (_ ∨ _))

/-- No checkout that can still lapse belongs to a subscription that has started. -/
def Unstarted (w : World) : Prop :=
  ∀ id s, w.mayLapse id → w.db.subscriptions.get? id = some s → ¬s.status.hasStarted

/-- A step that starts a pending subscription leaves it no checkout that can lapse. -/
def SettlesCheckout (w : World) (op : Op) : Prop :=
  ∀ id ∈ (issued w op).bind Tx.activates, w.db.statusOf id = some .pending →
    (step w op).db.statusOf id = some .active → ¬(step w op).mayLapse id

instance (w : World) (op : Op) : Decidable (SettlesCheckout w op) :=
  inferInstanceAs (Decidable (∀ id ∈ (issued w op).bind Tx.activates, _))

section Transactions

variable {db after : Db} {tx : Tx}

/-- A first order is only ever opened together with its subscription. -/
theorem exec_first_order {id : OrderId} {o : Order} (executed : exec db tx = .ok after)
    (missing : db.orders.get? id = none) (stored : after.orders.get? id = some o)
    (first : o.kind = .planInitial) :
    ∃ subscription, o.subscriptionId = some subscription ∧
      db.subscriptions.get? subscription = none := by
  -- Of the ways an order comes to be, only a checkout makes a first order.
  cases (exec_purchases executed).created missing stored with
  | checkout own kind new => exact ⟨_, own, new⟩
  | renewal called own kind | recurring called own kind => simp [first] at kind

theorem OrderMove.pending {id : OrderId} {o o' : Order} (move : OrderMove tx id o o')
    (pending : o'.status = .pending) : o.status = .pending := by
  cases move with
  | kept status | provisioned _ status | delivered _ status => exact status ▸ pending
  | confirmed _ _ status | refunded _ _ status => simp [status] at pending
  | closed _ status | overwritten _ status => rcases status with status | status <;>
      simp [status] at pending

theorem hasOpenCheckout_before (executed : exec db tx = .ok after)
    (known : db.subscriptions.get? id ≠ none) (opened : after.hasOpenCheckout id) :
    db.hasOpenCheckout id := by
  rw [Db.hasOpenCheckout_iff] at opened ⊢
  obtain ⟨orderId, o', stored', held, first, pending⟩ := opened
  cases stored : db.orders.get? orderId with
  | none =>
    -- An order that is new has a new subscription.
    obtain ⟨subscription, held', new⟩ := exec_first_order executed stored stored' first
    obtain rfl : subscription = id := by simpa [held'] using held
    exact (known new).elim
  | some o =>
    obtain ⟨_, moved, step⟩ := (exec_orders executed).moved stored
    obtain rfl := Option.mem_unique moved stored'
    exact ⟨orderId, o, stored, step.subscriptionId ▸ held, step.kind ▸ first,
      step.move.pending pending⟩

/-- A subscription that starts in a transaction was pending, and asked to be active. -/
theorem SubscriptionMove.starts {s s' : Subscription} (move : SubscriptionMove db tx id s s')
    (before : ¬s.status.hasStarted) (started : s'.status.hasStarted) :
    tx.activates = some id ∧ s.status = .pending ∧ s'.status = .active := by
  cases move with
  | kept _ status => exact absurd (status ▸ started) before
  | opened _ asked legal status =>
    refine ⟨asked, ?_, status⟩
    cases current : s.status <;>
      simp [current, canTransition, allowedTransitions, SubscriptionStatus.hasStarted] at legal before ⊢
  | lapsed _ legal status =>
    rcases status with status | status <;> cases current : s.status <;>
      simp [current, status, canTransition, allowedTransitions, SubscriptionStatus.hasStarted]
        at legal before
  | closed _ _ status => rcases status with status | status <;>
      simp [status, SubscriptionStatus.hasStarted] at started
  | attached _ _ _ row | detached _ _ row =>
    subst row
    exact absurd started before

end Transactions

section Steps

variable {w : World} {op : Op}

theorem listsCheckout_step (listed : (step w op).listsCheckout id) :
    w.mayLapse id := by
  obtain ⟨stale, member, held, first⟩ := listed
  -- Only the job that lists the orders adds to the list.
  have origin : stale ∈ w.staleOrders ∨ ∃ now, stale ∈ listStaleOrders w.db now := by
    rw [step] at member
    cases op with
    | listStaleOrders now =>
      rcases List.mem_append.mp member with old | new
      · exact .inl old
      · exact .inr ⟨now, new⟩
    | expireStaleOrder now stale => exact .inl (List.mem_of_mem_erase member)
    | _ =>
      left
      simp only [remember] at member
      repeat' split at member
      all_goals exact member
  rcases origin with old | ⟨now, new⟩
  · exact .inr ⟨stale, old, held, first⟩
  · refine .inl (Db.hasOpenCheckout_iff.mpr ?_)
    simp only [listStaleOrders, List.mem_map, Prod.exists] at new
    obtain ⟨orderId, o, listed, rfl⟩ := new
    obtain ⟨stored, pending⟩ := Table.mem_filter_iff.mp listed
    simp only [Bool.and_eq_true, beq_iff_eq] at pending
    exact ⟨orderId, o, stored, held, first, pending.1⟩

theorem mayLapse_before (known : w.db.subscriptions.get? id ≠ none)
    (lapses : (step w op).mayLapse id) : w.mayLapse id := by
  rcases lapses with opened | listed
  · left
    rcases step_db_cases w op with same | ⟨tx, -, executed⟩
    · exact same ▸ opened
    · exact hasOpenCheckout_before executed known opened
  · exact listsCheckout_step listed

theorem step_unstarted (unstarted : Unstarted w) (settles : SettlesCheckout w op) :
    Unstarted (step w op) := by
  intro id s' lapses stored' started
  rcases step_db_cases w op with same | ⟨tx, issues, executed⟩
  · rw [same] at stored'
    exact unstarted id s' (mayLapse_before (by simp [stored']) lapses) stored' started
  rcases (exec_subscriptions executed).origin stored' with ⟨s, stored, move⟩ | ⟨-, new⟩
  · have before := unstarted id s (mayLapse_before (by simp [stored]) lapses) stored
    -- The step starts the subscription, so no checkout of it is left.
    obtain ⟨asked, pending, active⟩ := move.starts before started
    exact settles id (by simp [issues, asked]) (by simp [Db.statusOf, stored, pending])
      (by simp [Db.statusOf, stored', active]) lapses
  · -- A subscription is created pending.
    simp [new.status, SubscriptionStatus.hasStarted] at started

/-- The expiry of an order that is on the list cancels a subscription only out of `pending`. -/
theorem expiry_cancels_pending {now : Time} {stale : StaleOrder} {s s' : Subscription}
    (unstarted : Unstarted w) (stored : w.db.subscriptions.get? id = some s)
    (stored' : (step w (.expireStaleOrder now stale)).db.subscriptions.get? id = some s')
    (moved : s.status ≠ .cancelled) (cancelled : s'.status = .cancelled) : s.status = .pending := by
  have unmoved (same : (step w (.expireStaleOrder now stale)).db.subscriptions.get? id =
      w.db.subscriptions.get? id) : s.status = .pending := by
    rw [same, stored] at stored'
    cases stored'
    exact absurd cancelled moved
  rcases step_db_cases w (.expireStaleOrder now stale) with same | ⟨tx, issues, executed⟩
  · exact unmoved (by rw [same])
  simp only [issued] at issues
  split at issues
  · rename_i listed
    cases issues
    rcases expireStaleOrder_ok executed with same | ⟨subscription, held, reason, owner, found, same⟩
    · exact unmoved (by rw [same]; rfl)
    rw [Db.transitionedIfAllowed] at same
    split at same
    · rename_i legal
      by_cases here : id = subscription
      · subst here
        obtain rfl := Option.mem_unique stored found
        have status : s'.status = stale.target := by
          have row : some s' = some (s.transitioned now stale.target (some reason)) := by
            rw [← stored', same]
            simp [Db.transitioned, Db.expired, stored]
          rw [Option.some.inj row, transitioned_status]
        -- Only a first order cancels; a renewal makes the subscription past due.
        rw [status, StaleOrder.target] at cancelled
        split at cancelled
        · rename_i first
          have before := unstarted id s (.inr ⟨stale, listed, owner, first⟩) stored
          -- Not started and not ended leaves `pending` alone.
          have alive := isAlive_of_canTransition legal
          cases current : s.status <;>
            simp [current, SubscriptionStatus.hasStarted, SubscriptionStatus.isAlive]
              at before alive ⊢
        · cases cancelled
      · exact unmoved (by rw [same]; simp [Db.transitioned, Db.expired, here])
    · exact unmoved (by rw [same]; rfl)
  · cases issues

end Steps

/--
Whenever the expiry job moves a subscription to `cancelled` the subscription was pending, in every
run in which each payment or administrator that starts a subscription leaves it no first order that
is unpaid or on the job's list.
-/
theorem lapsed_checkout_cancels_only_pending (w : World) (ops : List Op) (unstarted : Unstarted w)
    (settled : Guarded step SettlesCheckout w ops) (now : Time) (stale : StaleOrder)
    (id : SubscriptionId) (s s' : Subscription)
    (stored : (run step w ops).db.subscriptions.get? id = some s)
    (stored' : (step (run step w ops) (.expireStaleOrder now stale)).db.subscriptions.get? id =
      some s')
    (moved : s.status ≠ .cancelled) (cancelled : s'.status = .cancelled) : s.status = .pending :=
  expiry_cancels_pending
    (invariant_run Unstarted (fun _ _ before allowed => step_unstarted before allowed) unstarted
      settled)
    stored stored' moved cancelled

theorem Unstarted.of_empty {w : World} (orders : w.db.orders = .empty)
    (listed : w.staleOrders = []) : Unstarted w := by
  rintro id s (⟨row, member, -⟩ | ⟨stale, member, -⟩)
  · rw [orders] at member
    cases member
  · rw [listed] at member
    cases member

/-- An unpaid checkout, listed by the job after its deadline. -/
def sampleLapse : List Op :=
  sampleCheckout ++ [.chargePresented ⟨10, 20⟩ (.pix "qr" "b64"), .listStaleOrders 200000000]

/-- An administrator starts a subscription. -/
def sampleGrant : Op := .issue (.updateStatusAsAdmin 1000 20 .active none 2)

def sampleExpiry : Op := .expireStaleOrder 200000000 ⟨10, some 20, .planInitial⟩

theorem sample_lapsed_checkout_cancels_only_pending :
    ∃ s s', (run step sampleShop sampleLapse).db.subscriptions.get? 20 = some s ∧
      (step (run step sampleShop sampleLapse) sampleExpiry).db.subscriptions.get? 20 = some s' ∧
      s'.status = .cancelled ∧ s.status = .pending := by
  have before : (run step sampleShop sampleLapse).db.statusOf 20 = some .pending := by decide
  have after : (step (run step sampleShop sampleLapse) sampleExpiry).db.statusOf 20 =
      some .cancelled := by decide
  obtain ⟨s, stored, pending⟩ := Option.map_eq_some_iff.mp before
  obtain ⟨s', stored', cancelled⟩ := Option.map_eq_some_iff.mp after
  exact ⟨s, s', stored, stored', cancelled,
    lapsed_checkout_cancels_only_pending sampleShop sampleLapse (.of_empty rfl rfl) (by decide)
      200000000 ⟨10, some 20, .planInitial⟩ 20 s s' stored stored' (by simp [pending]) cancelled⟩

/-- The payment arrives after the order was listed, or an administrator starts the subscription
    while its order is unpaid; in both runs the job then cancels an active subscription. -/
theorem lapsed_checkout_cancels_active :
    (run step sampleShop (sampleLapse ++ samplePaid 200000000)).db.statusOf 20 = some .active ∧
    (run step sampleShop (sampleLapse ++ samplePaid 200000000 ++ [sampleExpiry])).db.statusOf 20 =
      some .cancelled ∧
    (run step sampleShop (sampleCheckout ++ [sampleGrant, .listStaleOrders 200000000])
      ).db.statusOf 20 = some .active ∧
    (run step sampleShop (sampleCheckout ++ [sampleGrant, .listStaleOrders 200000000,
      sampleExpiry])).db.statusOf 20 = some .cancelled := by
  decide

end PxHost
