import PxHost.System.SubscriptionLaws
import PxHost.System.Suspension

/-! For whom the provisioning worker sets up servers. -/

namespace PxHost

open Store Fallible Machine

def Order.awaitsServer (o : Order) : Bool :=
  o.provisioningStatus != .notRequired && o.provisioningStatus != .done

/-- The subscription exists and is neither cancelled nor expired. -/
def Db.isAlive (db : Db) (id : SubscriptionId) : Bool :=
  (db.subscriptions.get? id).any (·.status.isAlive)

/-- A confirmed payment that asks for a server is matched to the live subscription of its order. -/
def PaysForLive (db : Db) : Tx → Bool
  | .applyPaymentOutcome _ id .paymentConfirmed payment provider fresh =>
    (db.subscriptions.get? id).all fun s =>
      match findOrCreateOrderForPayment db id s payment provider fresh with
      | .ok (_, some (_, order)) =>
        !order.awaitsServer || (order.subscriptionId == some id && s.status.isAlive)
      | _ => true
  | _ => true

/-- No subscription is closed while it is owed a server or one is being set up for it. -/
def LeavesOwed (w : World) (tx : Tx) : Bool :=
  (tx.closes w.db).all fun id =>
    (w.db.orders.find? fun _ o =>
      o.status == .paid && o.awaitsServer && o.subscriptionId == some id).isNone &&
      w.provisioning.all fun job => job.order.subscriptionId != some id

/-- Payments come for live subscriptions, which then live until their server is there. -/
def DeliversToLive (w : World) (op : Op) : Prop :=
  ∀ tx ∈ issued w op, PaysForLive w.db tx ∧ LeavesOwed w tx

instance (w : World) (op : Op) : Decidable (DeliversToLive w op) :=
  inferInstanceAs (Decidable (∀ tx ∈ issued w op, PaysForLive w.db tx ∧ LeavesOwed w tx))

variable {db after : Db} {tx : Tx} {now : Time} {w : World} {op : Op} {id : SubscriptionId}

theorem isAlive_iff :
    db.isAlive id ↔ ∃ s, db.subscriptions.get? id = some s ∧ s.status.isAlive := by
  unfold Db.isAlive
  cases db.subscriptions.get? id <;> simp

theorem exec_isAlive (executed : exec db tx = .ok after) (alive : db.isAlive id)
    (spared : tx.closes db ≠ some id) : after.isAlive id := by
  obtain ⟨s, stored, living⟩ := isAlive_iff.mp alive
  obtain ⟨s', stored', move⟩ := (exec_subscriptions executed).moved stored
  refine isAlive_iff.mpr ⟨s', stored', ?_⟩
  cases move with
  | kept holder status => rwa [status]
  | opened holder asked legal status =>
    rw [status]
    rfl
  | lapsed holder legal status => rcases status with status | status <;> rw [status] <;> rfl
  | closed holder asked => exact absurd asked spared
  | attached called asked waiting row | detached called held row => rwa [row]

/-- Only first orders ever wait for a server that was not tried yet. -/
def FirstOrdersWait (db : Db) : Prop :=
  ∀ {id o}, db.orders.get? id = some o → o.provisioningStatus = .pending → o.kind = .planInitial

theorem exec_firstOrdersWait (first : FirstOrdersWait db) (executed : exec db tx = .ok after) :
    FirstOrdersWait after := by
  intro id o' stored' waits
  rcases (exec_orders executed).origin stored' with ⟨o, stored, step⟩ | ⟨-, new⟩
  · rw [step.kind]
    cases step.move with
    | kept status server | confirmed called unsettled status server
    | refunded called returned status server | closed pending status server
    | overwritten blind status server =>
      exact first stored (server ▸ waits)
    | provisioned serves status server => exact absurd waits server
    | delivered serves status server => simp [server] at waits
  · cases new with
    | first status kind => exact kind
    | renewal kind server => simp [server] at waits

variable {id : OrderId}

/-- Where a paid order that waits for its server comes from. -/
theorem exec_owed (executed : exec db tx = .ok after) {o' : Order}
    (stored' : after.orders.get? id = some o') (paid : o'.status = .paid) (awaits : o'.awaitsServer) :
    ∃ o, db.orders.get? id = some o ∧ o'.subscriptionId = o.subscriptionId ∧
      ((o.status = .paid ∧ o.awaitsServer) ∨ tx.provisions = some id ∨
        ∃ now subscription payment provider fresh s mid,
          tx = .applyPaymentOutcome now subscription .paymentConfirmed payment provider fresh ∧
          db.subscriptions.get? subscription = some s ∧ o.awaitsServer ∧
          findOrCreateOrderForPayment db subscription s payment provider fresh =
            .ok (mid, some (id, o))) := by
  rcases (exec_orders executed).origin stored' with ⟨o, stored, step⟩ | ⟨-, new⟩
  · refine ⟨o, stored, step.subscriptionId, ?_⟩
    cases step.move with
    | kept status server =>
      exact .inl ⟨status ▸ paid, by simpa [Order.awaitsServer, server] using awaits⟩
    | @confirmed now subscription payment provider fresh called unsettled status server =>
      subst called
      obtain ⟨_, applies⟩ := map_fst_eq_ok_iff.mp executed
      have turned : o.status ≠ o'.status := by
        rw [paid]
        exact unsettled.1
      obtain ⟨s, mid, known, resolves, -⟩ := applyPaymentOutcome_turns applies stored stored' turned
      exact .inr (.inr ⟨now, subscription, payment, provider, fresh, s, mid, rfl, known,
        by simpa [Order.awaitsServer, server] using awaits, resolves⟩)
    | refunded called returned status => simp [status] at paid
    | closed pending status => rcases status with status | status <;> simp [status] at paid
    | overwritten blind status => rcases status with status | status <;> simp [status] at paid
    | provisioned serves => exact .inr (.inl serves)
    | delivered serves status server => simp [Order.awaitsServer, server] at awaits
  · cases new with
    | first status => simp [status] at paid
    | renewal kind server => simp [Order.awaitsServer, server] at awaits

theorem issued_provisions (issues : issued w op = some tx) (serves : tx.provisions = some id) :
    ∃ job ∈ w.provisioning, job.id = id := by
  cases op with
  | issue direct =>
    simp only [issued] at issues
    split at issues
    · rename_i allowed
      cases issues
      cases tx with
      | markProvisioningRunning | failProvisioning => cases allowed
      | _ => cases serves
    · cases issues
  | markProvisioningRunning job | failProvisioning job message =>
    simp only [issued] at issues
    split at issues
    · rename_i working
      cases issues
      cases serves
      exact ⟨job, working, rfl⟩
    · cases issues
  | _ =>
    simp only [issued] at issues
    (repeat' split at issues) <;> cases issues <;> cases serves

theorem checkProvisionable_ok {row : Order} (checks : checkProvisionable db id = .ok (some row)) :
    db.orders.get? id = some row ∧ row.status = .paid ∧ row.awaitsServer := by
  unfold checkProvisionable at checks
  cases stored : db.orders.get? id with
  | none => simp [stored] at checks
  | some order =>
    simp only [stored] at checks
    split at checks
    · cases checks
    rename_i missing
    split at checks
    · cases checks
    rename_i wanted
    split at checks
    · cases checks
    rename_i paid
    cases checks
    simp only [not_or, ne_eq, not_not] at missing paid
    exact ⟨rfl, paid, by simp [Order.awaitsServer, missing.2, wanted]⟩

variable {job : ProvisionJob}

theorem remember_provisioning (working : job ∈ (remember w op).provisioning) :
    job ∈ w.provisioning ∨ issued w op = none ∧ w.db.orders.get? job.id = some job.order ∧
      job.order.status = .paid ∧ job.order.awaitsServer := by
  cases op with
  | startProvisioning order =>
    simp only [remember] at working
    split at working
    · exact .inl working
    · split at working
      · rename_i row checks
        rcases List.mem_append.mp working with old | new
        · exact .inl old
        · obtain rfl := List.mem_singleton.mp new
          exact .inr ⟨rfl, checkProvisionable_ok checks⟩
      · exact .inl working
  | provision job' now node context fresh =>
    simp only [remember] at working
    split at working
    · exact .inl (List.mem_of_mem_erase working)
    · exact .inl working
  | failProvisioning job' message => exact .inl (List.mem_of_mem_erase working)
  | _ =>
    refine .inl ?_
    simp only [remember] at working
    (repeat' split at working) <;> exact working

/-- Whoever is owed a server, or has one on its way, is alive. -/
structure ServersOwed (w : World) : Prop where
  first : FirstOrdersWait w.db
  owed : ∀ {id o subscription}, w.db.orders.get? id = some o → o.status = .paid → o.awaitsServer →
    o.subscriptionId = some subscription → w.db.isAlive subscription
  known : ∀ {job}, job ∈ w.provisioning →
    ∃ o, w.db.orders.get? job.id = some o ∧ o.subscriptionId = job.order.subscriptionId
  working : ∀ {job subscription}, job ∈ w.provisioning →
    job.order.subscriptionId = some subscription → w.db.isAlive subscription

variable {subscription : SubscriptionId}

theorem owed_not_closed (leaves : LeavesOwed w tx) {o : Order}
    (stored : w.db.orders.get? id = some o) (paid : o.status = .paid) (awaits : o.awaitsServer)
    (own : o.subscriptionId = some subscription) : tx.closes w.db ≠ some subscription := by
  intro closes
  simp only [LeavesOwed, closes, Option.all_some, Bool.and_eq_true, Option.isNone_iff_eq_none]
    at leaves
  simpa [paid, awaits, own] using Table.find?_none leaves.1 stored

theorem working_not_closed (leaves : LeavesOwed w tx) (working : job ∈ w.provisioning)
    (own : job.order.subscriptionId = some subscription) :
    tx.closes w.db ≠ some subscription := by
  intro closes
  simp only [LeavesOwed, closes, Option.all_some, Bool.and_eq_true, List.all_eq_true] at leaves
  simpa [own] using leaves.2 job working

/-- A paid order that waits for its server belongs to a live subscription after every step. -/
theorem step_owed (before : ServersOwed w) (guard : DeliversToLive w op) {o' : Order}
    (stored' : (step w op).db.orders.get? id = some o') (paid : o'.status = .paid)
    (awaits : o'.awaitsServer) (own : o'.subscriptionId = some subscription) :
    (step w op).db.isAlive subscription := by
  rcases step_db_cases w op with same | ⟨tx, issues, executed⟩
  · rw [same] at stored' ⊢
    exact before.owed stored' paid awaits own
  obtain ⟨pays, leaves⟩ := guard tx issues
  obtain ⟨o, stored, deal, origin⟩ := exec_owed executed stored' paid awaits
  rw [deal] at own
  rcases origin with ⟨paid, awaits⟩ | serves |
    ⟨now, matched, payment, provider, fresh, s, mid, rfl, known, awaits, resolves⟩
  · exact exec_isAlive executed (before.owed stored paid awaits own)
      (owed_not_closed leaves stored paid awaits own)
  · -- The order is back in the making, by an execution that is working for a live subscription.
    obtain ⟨job, working, rfl⟩ := issued_provisions issues serves
    obtain ⟨row, found, same⟩ := before.known working
    obtain rfl : o = row := by simpa [stored] using found
    rw [same] at own
    exact exec_isAlive executed (before.working working own) (working_not_closed leaves working own)
  · simp only [PaysForLive, known, Option.all_some, resolves, awaits, Bool.not_true,
      Bool.false_or, Bool.and_eq_true, beq_iff_eq] at pays
    obtain rfl : matched = subscription := by simpa [own] using pays.1.symm
    exact exec_isAlive executed (isAlive_iff.mpr ⟨s, known, pays.2⟩) (by simp [Tx.closes])

theorem step_serversOwed (before : ServersOwed w) (guard : DeliversToLive w op) :
    ServersOwed (step w op) where
  first := by
    rcases step_db_cases w op with same | ⟨tx, -, executed⟩
    · rw [same]
      exact before.first
    · exact exec_firstOrdersWait before.first executed
  owed := step_owed before guard
  known := fun {job} working => by
    rcases remember_provisioning working with old | ⟨quiet, stored, -⟩
    · obtain ⟨o, stored, deal⟩ := before.known old
      rcases step_db_cases w op with same | ⟨tx, -, executed⟩
      · rw [same]
        exact ⟨o, stored, deal⟩
      · obtain ⟨o', stored', step⟩ := (exec_orders executed).moved stored
        exact ⟨o', stored', step.subscriptionId.trans deal⟩
    · rw [step_db, quiet]
      exact ⟨job.order, stored, rfl⟩
  working := fun {job subscription} working own => by
    rcases remember_provisioning working with old | ⟨quiet, stored, paid, awaits⟩
    · rcases step_db_cases w op with same | ⟨tx, issues, executed⟩
      · rw [same]
        exact before.working old own
      · exact exec_isAlive executed (before.working old own)
          (working_not_closed (guard tx issues).2 old own)
    · rw [step_db, quiet]
      exact before.owed stored paid awaits own

def Db.orderSubscriptionStatus (db : Db) (id : OrderId) : Option SubscriptionStatus := do
  let order ← db.orders.get? id
  let subscription ← order.subscriptionId
  (db.subscriptions.get? subscription).map (·.status)

/-- A payment that asks for a server leaves the subscription of its order active. -/
theorem applyPaymentOutcome_active (first : FirstOrdersWait db) {event : InternalPaymentEvent}
    {payment : GatewayPayment} {provider : PaymentProviderName} {fresh : FreshOrder}
    {asked : OrderId}
    (pays : PaysForLive db (.applyPaymentOutcome now id event payment provider fresh))
    (applies : applyPaymentOutcome db now id event payment provider fresh =
      .ok (after, some asked)) :
    after.orderSubscriptionStatus asked = some .active := by
  generalize answered : some asked = answer at applies
  rcases applyPaymentOutcome_resolves applies with ⟨-, rfl⟩ | ⟨s, mid, orderId, order, stored,
    resolves, settled⟩
  · cases answered
  cases settled with
  | confirmed unsettled confirmed amount restored =>
    subst confirmed
    have waits : order.provisioningStatus = .pending ∧ asked = orderId := by
      split at answered
      · rename_i waits
        exact ⟨waits, Option.some.inj answered⟩
      · cases answered
    obtain ⟨waits, rfl⟩ := waits
    have awaits : order.awaitsServer := by simp [Order.awaitsServer, waits]
    simp only [PaysForLive, stored, Option.all_some, resolves, awaits, Bool.not_true,
      Bool.false_or, Bool.and_eq_true, beq_iff_eq] at pays
    -- A renewal opened on the spot waits for no server, so the order was there before.
    have kind : order.kind = .planInitial := by
      rcases (resolved_of_found resolves).origin with ⟨-, found⟩ | ⟨_, -, rfl, -⟩
      · exact first found waits
      · cases waits
    obtain ⟨found, subscriptions, -⟩ := (resolved_of_found resolves).frame
    have status : (after.subscriptions.get? id).map (·.status) = some .active := by
      have stored' : (mid.markedPaid now s payment asked).subscriptions.get? id = some s := by
        rw [← stored, ← subscriptions]
        rfl
      rw [restored.status stored', kind]
      simp [restoredStatus, pays.2]
    have row : after.orders.get? asked = some (order.paid now s payment) := by
      rw [restored.frame.2.1]
      simp [Db.markedPaid, found]
    simpa [Db.orderSubscriptionStatus, row, Order.paid, pays.1] using status
  | _ => cases answered

/-- What a step hands out goes to an active subscription, or is attached to a live one. -/
def ServesLive (w : World) : Op → Prop
  | .applyWebhook id now fresh => ∀ subscription event payment provider after order,
    w.webhooks.get? id = some (.resolved subscription event payment provider) →
    applyPaymentOutcome w.db now subscription event payment provider fresh =
      .ok (after, some order) →
    after.orderSubscriptionStatus order = some .active
  | .provision job now node context fresh => job ∈ w.provisioning → ∀ after,
    createOnNode w.db now (provisionInput job.order) node context fresh = .ok after →
    ∀ subscription, (provisionInput job.order).attachSubscriptionId = some subscription →
      after.isAlive subscription
  | _ => True

theorem servesLive_of_owed (before : ServersOwed w) (guard : DeliversToLive w op) :
    ServesLive w op := by
  cases op with
  | applyWebhook id now fresh =>
    intro subscription event payment provider after order stage applies
    have issues : issued w (.applyWebhook id now fresh) =
        some (.applyPaymentOutcome now subscription event payment provider fresh) := by
      simp [issued, stage]
    exact applyPaymentOutcome_active before.first (guard _ issues).1 applies
  | provision job now node context fresh =>
    intro working after creates subscription own
    have executed : exec w.db (.createOnNode now (provisionInput job.order) node context fresh) =
        .ok after := creates
    exact exec_isAlive executed (before.working working own) nofun
  | _ => trivial

/--
No server is asked for or set up for a dead subscription, in any run from an empty shop in which
payments come for live subscriptions, and those are not closed while they are owed a server.
-/
theorem servers_go_to_live_subscriptions (w : World) (ops : List Op) (op : Op)
    (unsold : w.db.orders = .empty) (idle : w.provisioning = [])
    (guarded : Guarded step DeliversToLive w (ops ++ [op])) : ServesLive (run step w ops) op := by
  rw [guarded_append] at guarded
  have owed := invariant_run ServersOwed (fun _ _ before guard => step_serversOwed before guard)
    ⟨by simp [FirstOrdersWait, unsold], by simp [unsold], by simp [idle], by simp [idle]⟩ guarded.1
  exact servesLive_of_owed owed guarded.2.1

/-- The payment of a live customer is applied, and its order asked for. -/
theorem sample_servers_go_to_live_subscriptions :
    ServesLive (run step sampleShop (sampleCheckout ++ (samplePaid 1000).take 1))
      (.applyWebhook "n1" 1000 ⟨11, "ord_b"⟩) :=
  servers_go_to_live_subscriptions sampleShop _ _ rfl rfl (by decide)

/-- The customer cancels before the payment arrives, and is given a server all the same. -/
theorem cancelled_subscription_gets_server :
    let w := run step { db := samplePanel } (sampleCheckout ++ [
      .readCancellation 1 20 none false, .cancelSubscription 500 ⟨1, 20, none, false, none⟩] ++
      samplePaid 1000)
    let w' := run step w ([.enqueueWebhook "n1", .startProvisioning 10] ++
      (w.db.orders.get? 10).toList.map fun order =>
        .provision ⟨10, order⟩ 2000 1 none ⟨1, ["a1b2c3d4"]⟩)
    w.webhooks.get? "n1" = some (.toEnqueue 10) ∧
    w.db.orderSubscriptionStatus 10 = some .cancelled ∧
    (w'.db.subscriptions.get? 20).map (fun s => (s.status, s.serverId)) =
      some (.cancelled, some 1) := by
  decide +kernel

end PxHost
