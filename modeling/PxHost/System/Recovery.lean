import PxHost.System.Slots

/-! What a customer who pays late gets back. -/

namespace PxHost

open Machine

variable {db mid after : Db} {now : Time} {id : SubscriptionId} {s : Subscription}
  {payment : GatewayPayment} {provider : PaymentProviderName} {fresh : FreshOrder}
  {orderId : OrderId} {order : Order}

/-- The subscription is active, and billing does not hold its server down any more. -/
def ServiceRestored (db after : Db) (id : SubscriptionId) : Prop :=
  (after.subscriptions.get? id).map (·.status) = some .active ∧
    ∀ server, db.serverOf id = some server → db.suspendedBy server = some .billing →
      after.serverStatus server ≠ some .suspended

theorem serverStatus_of_same {server : ServerId} (rows : after.servers = db.servers)
    (held : db.suspendedBy server = some .billing) : after.serverStatus server = some .suspended := by
  have status := serverStatus_of_suspendedBy held
  simpa [Db.serverStatus, Db.server?, rows] using status

/-- Only a suspended subscription that pays its first order gets its server back. -/
theorem Restored.server_resumes_iff (restored : Restored db now id s orderId order after)
    (lapsed : s.status = .pastDue ∨ s.status = .suspended) :
    (∀ server, s.serverId = some server → db.suspendedBy server = some .billing →
        after.serverStatus server ≠ some .suspended) ↔
      (s.status = .suspended ∧ order.kind ≠ .planRenewal) ∨
        ∀ server, s.serverId = some server → db.suspendedBy server ≠ some .billing := by
  -- Where the servers stay as they are, there must have been nothing to lift.
  have unlifted (rows : after.servers = db.servers) :
      (∀ server, s.serverId = some server → db.suspendedBy server = some .billing →
          after.serverStatus server ≠ some .suspended) ↔
        ∀ server, s.serverId = some server → db.suspendedBy server ≠ some .billing := by
    constructor
    · intro lifted server held down
      exact lifted server held down (serverStatus_of_same rows down)
    · intro free server held down
      exact absurd down (free server held)
  cases restored with
  | renewed renewal => simp [unlifted rfl, renewal]
  | activated first pending =>
    rcases lapsed with held | held <;> simp [held] at pending
  | recovered first lapsed =>
    rw [unlifted rfl]
    rcases lapsed with overdue | ⟨suspended, without⟩
    · simp [overdue]
    · simp [without]
  | @resumed resumed lifted serverId first suspended held resumes =>
    refine iff_of_true ?_ (.inl ⟨suspended, first⟩)
    intro server same down
    obtain rfl : serverId = server := by simpa [held] using same
    obtain ⟨row, found, outcome⟩ := unsuspend_ok_iff.mp resumes
    have source : row.val.suspensionSource = some .billing := by
      have found' : db.servers.get? serverId = some row := found
      simpa [Db.suspendedBy, Db.server?, found'] using down
    simp only [source, ne_eq, not_true_eq_false, and_false, if_false] at outcome
    obtain ⟨rfl, ok, rfl⟩ := outcome
    simp [Db.serverStatus, Db.server?, Db.record, Db.setServer, found, Server.unsuspended]
  | untouched first other current running =>
    rcases lapsed with held | held
    · exact absurd held current
    · exact absurd held running

/--
A confirmed payment of a lapsed subscription restores the service exactly when it settles the
first order of a suspended one, or when an overdue one has no server that billing suspended.
-/
theorem confirmed_payment_restores_service_iff (stored : db.subscriptions.get? id = some s)
    (lapsed : s.status = .pastDue ∨ s.status = .suspended)
    (attached : ∀ server, s.serverId = some server → ∃ row, db.servers.get? server = some row)
    (resolves : findOrCreateOrderForPayment db id s payment provider fresh =
      .ok (mid, some (orderId, order)))
    (unsettled : order.IsOpen) (kind : order.kind = .planInitial ∨ order.kind = .planRenewal)
    (amount : payment.amountCents = some order.amountCents) :
    (∃ after answer, applyPaymentOutcome db now id .paymentConfirmed payment provider fresh =
        .ok (after, answer) ∧ ServiceRestored db after id) ↔
      (s.status = .suspended ∧ order.kind = .planInitial) ∨
        (s.status = .pastDue ∧
          ∀ server, s.serverId = some server → db.suspendedBy server ≠ some .billing) := by
  have frame := (resolved_of_found resolves).frame.2
  -- Booking the order leaves the subscription and the servers as they were.
  have stored' : (mid.markedPaid now s payment orderId).subscriptions.get? id = some s := by
    rw [← stored, ← frame.1]
    rfl
  have servers : (mid.markedPaid now s payment orderId).servers = db.servers := frame.2
  have present : ¬(mid.markedPaid now s payment orderId).lacksServer s := by
    rintro ⟨server, held, missing⟩
    obtain ⟨row, found⟩ := attached server held
    simp [servers, found] at missing
  obtain ⟨after, restores, restored⟩ :=
    (restoreService_yields stored' now orderId order).answers present
  have status := restored.status stored'
  have resumes := restored.server_resumes_iff lapsed
  have outcome : (∃ after answer,
        applyPaymentOutcome db now id .paymentConfirmed payment provider fresh =
          .ok (after, answer) ∧ ServiceRestored db after id) ↔ ServiceRestored db after id := by
    simp [applyPaymentOutcome_confirmed stored resolves unsettled amount, restores, Except.map]
  have unchanged : ∀ server, (mid.markedPaid now s payment orderId).suspendedBy server =
      db.suspendedBy server := by
    intro server
    simp only [Db.suspendedBy, Db.server?, servers]
  have own : ∀ server, db.serverOf id = some server ↔ s.serverId = some server := by
    simp [Db.serverOf, stored]
  simp only [unchanged] at resumes
  rw [outcome, ServiceRestored, status]
  simp only [own]
  rw [resumes]
  -- What is left is to compare the two conditions, status by status and kind by kind.
  rcases lapsed with held | held <;> rcases kind with first | renewal <;>
    simp [restoredStatus, SubscriptionStatus.isAlive, *]

/-- The customer's server, delivered and installed on a plan with room for it. -/
def sampleCustomerServer : List Tx :=
  .updatePlan 1 { maxSlots := some (some 2) } :: sampleSold ++ [
    .createOnNode 2000 sampleDelivery 1 (some sampleTemplate) ⟨1, ["a1b2c3d4"]⟩,
    .reportInstallResult 3000 1 1 true]

/-- The next charge runs out unpaid, and after the grace period the server is suspended. -/
def sampleDebt : List Tx := [
  .createOfflineRenewalCharge 2600000000 20 ⟨12, "ord_c"⟩ none,
  .expireStaleOrder 3000000000 ⟨12, some 20, .planRenewal⟩,
  .suspendOverdue 3300000000 3 20,
  .suspend 3300000000 1 "billing: past_due for more than 3 day(s)" .billing]

/-- The customer pays the overdue charge after all. -/
def sampleLatePix : GatewayPayment :=
  { samplePix with id := "pix-2", status := "approved", externalReference := some "ord_c" }

/-- The customer with the charge run out, but still within the grace period. -/
def sampleOverdue : Db := run commit samplePanel (sampleCustomerServer ++ sampleDebt.take 2)

/-- Paid within the grace period, the renewal makes the subscription active again. -/
theorem sample_confirmed_payment_restores_service :
    ∃ after answer, applyPaymentOutcome sampleOverdue 3100000000 20 .paymentConfirmed sampleLatePix
      .mercadopago ⟨13, "ord_d"⟩ = .ok (after, answer) ∧ ServiceRestored sampleOverdue after 20 := by
  have resolves : findOrCreateOrderForPayment sampleOverdue 20
        ((sampleOverdue.subscriptions.get? 20).get (by decide +kernel)) sampleLatePix .mercadopago
        ⟨13, "ord_d"⟩ =
      .ok (sampleOverdue, some (12, (sampleOverdue.orders.get? 12).get (by decide +kernel))) := by
    decide +kernel
  have held : ((sampleOverdue.subscriptions.get? 20).get (by decide +kernel)).serverId = some 1 := by
    decide +kernel
  refine (confirmed_payment_restores_service_iff (Option.some_get _).symm (.inl (by decide +kernel)) ?_
    resolves ⟨by decide +kernel, by decide +kernel, by decide +kernel⟩ (.inr (by decide +kernel))
    (by decide +kernel)).mpr (.inr ⟨by decide +kernel, ?_⟩)
  · intro server own
    obtain rfl : 1 = server := by simpa [held] using own
    exact ⟨_, (Option.some_get (by decide +kernel)).symm⟩
  · intro server own
    obtain rfl : 1 = server := by simpa [held] using own
    decide +kernel

/-- A suspended customer pays the renewal that ran out, and stays suspended with the server down. -/
theorem late_renewal_stays_suspended :
    let before := run commit samplePanel (sampleCustomerServer ++ sampleDebt)
    let after := commit before
      (.applyPaymentOutcome 3400000000 20 .paymentConfirmed sampleLatePix .mercadopago ⟨13, "ord_d"⟩)
    before.orderStatus 12 = some .expired ∧
    (before.subscriptions.get? 20).map (·.status) = some .suspended ∧
    before.serverOf 20 = some 1 ∧ before.suspendedBy 1 = some .billing ∧
    after.orderStatus 12 = some .paid ∧
    (after.subscriptions.get? 20).map (·.status) = some .suspended ∧
    after.serverStatus 1 = some .suspended := by
  decide +kernel

end PxHost
